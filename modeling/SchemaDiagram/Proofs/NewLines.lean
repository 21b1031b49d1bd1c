import SchemaDiagram.Proofs.BodyEnd

/-! # New lines at the end of a body

A new property is written on a line of its own behind the last character of a body. The lines are
read as properties whatever stands before them, and blanks stand behind the last one.

* **`newLines`** — new properties as they are written; `sealed_newLines` says that nothing runs out
  of them.
* **`view_newLines`** — what new lines say.
* **`exists_extended`** — a body with new lines at its end says what it said, and then what they
  say. -/

namespace SchemaDiagram

/-- A key and a value that a change writes into a body. -/
structure WrittenEntry (e : Text × Text) : Prop where
  /-- The key is not empty. -/
  ne_nil : e.1 ≠ []
  /-- It is a word. -/
  word : ∀ c ∈ e.1, isWordChar c = true
  /-- The value is read back as it is written. -/
  value : IsWritten e.2

/-- What stands before the value of a new property. -/
def lineLead (indent key : Text) : Text := ['\n'] ++ (indent ++ (key ++ [':'] ++ [' ']))

/-- New properties as they are written, each on a line of its own. -/
def newLines (indent : Text) (entries : OrderedMap Text) : Text :=
  entries.flatMap fun e => lineLead indent e.1 ++ e.2

variable {indent ending : Text} {entries : OrderedMap Text}

/-- The lines of new properties are written one by one. -/
theorem newLines_cons (e : Text × Text) (es : OrderedMap Text) (ending : Text) :
    newLines indent (e :: es) ++ ending
      = lineLead indent e.1 ++ (e.2 ++ (newLines indent es ++ ending)) := by
  simp [newLines]

/-- A written value before a sealed text that is loose is sealed with it. -/
theorem IsWritten.sealed {v rest : Text} (hv : IsWritten v) (hrest : Sealed rest)
    (hloose : ∀ z : Text, Loose (rest ++ z)) : Sealed (v ++ rest) := by
  have hjoint : ∀ z : Text, Joint v (rest ++ z) := fun z => hv.joint _ (hloose z).quote
  have hself := hjoint []
  have hloose' := hloose []
  rw [List.append_nil] at hself hloose'
  refine ⟨fun z => Joint.trans (hjoint z) (hrest.solid z), fun z o l => ?_⟩
  rw [List.append_assoc, tokensFrom_clean_append (hjoint z) (hloose z).severs, hrest.tokens,
    tokensFrom_clean_append hself hloose'.severs, List.append_assoc, List.length_append,
    List.count_append, Nat.add_assoc, Nat.add_assoc]

/-- **What stands before a new value** is a line end, a word and a colon, and nothing runs out of
it. -/
theorem sealed_lineLead (hindent : InlineBlank indent) {key : Text} (hne : key ≠ [])
    (hkey : ∀ c ∈ key, isWordChar c = true) :
    Sealed (lineLead indent key) ∧ ∀ o l, ∃ lineEnd word colon,
      tokensFrom o l (clean (lineLead indent key)) = [lineEnd, word, colon] ∧
        lineEnd.kind = .newline ∧ word.kind = .word ∧ word.value = key ∧ colon.kind = .colon := by
  -- Its pieces, each of which nothing runs out of.
  have hline : Sealed ['\n'] := .of_piece fun _ => .newline
  have hblanks : Sealed indent := .of_blanks hindent.blank
  have hspace : InlineBlank [' '] := ⟨by simp [AllBlank]; decide, by decide⟩
  have hjoint : Joint key (':' :: []) := Solid.of_word hkey _
  have hcolon : Sealed (key ++ [':']) := hjoint.sealed piece_colon (by decide)
  have hword : Piece (some .word) key [] := .word hne hkey (by simp)
  refine ⟨hline.append (hblanks.append (hcolon.append (.of_blanks hspace.blank))), fun o l => ?_⟩
  -- The key and the colon are written together, so they are read as a word and a colon.
  have hsnoc := hjoint.tokensFrom_snoc piece_colon (by decide) []
  rw [List.append_nil] at hsnoc
  rw [lineLead, hline.tokens, hblanks.tokens, hcolon.tokens, hsnoc, hword.tokensFrom_eq,
    (@Piece.newline []).tokensFrom_eq, hindent.blank.settled.clean_eq, hindent.tokens,
    hspace.blank.settled.clean_eq, hspace.tokens, clean_nil, tokensFrom_nil]
  exact ⟨_, _, _, rfl, rfl, rfl, rfl, rfl⟩

section

variable (hindent : InlineBlank indent) (hentries : ∀ e ∈ entries, WrittenEntry e)
  (hending : AllBlank ending) (hne : ending ≠ [])

include hindent hentries hending hne

/-- **Nothing runs out of new lines**, and no value goes on in them. -/
theorem sealed_newLines :
    Sealed (newLines indent entries ++ ending) ∧
      ∀ z : Text, Loose (newLines indent entries ++ ending ++ z) := by
  induction entries with
  | nil => exact ⟨.of_blanks hending, Loose.of_blanks hending hne⟩
  | cons e es ih =>
    obtain ⟨hsealed, hloose⟩ := ih fun f hf => hentries f (List.mem_cons_of_mem _ hf)
    have he := hentries e (List.mem_cons_self ..)
    rw [newLines_cons]
    refine ⟨(sealed_lineLead hindent he.ne_nil he.word).1.append (he.value.sealed hsealed hloose),
      ?_⟩
    -- The text starts with a newline, so no value goes on in it.
    intro z c hc
    obtain rfl : '\n' = c := Option.some.inj hc
    exact .inl (by decide)

/-- **New lines are read as properties**, and nothing else. -/
theorem view_newLines {s a : Text} (hs : s = a ++ clean (newLines indent entries ++ ending))
    (doc : List Text) (l : Nat) :
    (contentsFrom s false doc
        (tokensFrom a.length l (clean (newLines indent entries ++ ending)))).view s
      = ⟨[], [], entries⟩ ∧
    balance [] (tokensFrom a.length l (clean (newLines indent entries ++ ending))) = some [] ∧
    ∀ t ∈ (tokensFrom a.length l (clean (newLines indent entries ++ ending))).head?,
      t.kind = .newline := by
  induction entries generalizing a doc l with
  | nil =>
    have hends : ∀ t ∈ tokensFrom a.length l (clean ending), t.kind = .newline := by
      intro t ht
      rw [hending.settled.clean_eq] at ht
      exact kind_of_mem_blanks hending ht
    -- Without entries only the ending is left, which is read as newlines.
    have htext : newLines indent [] ++ ending = ending := rfl
    rw [htext, contentsFrom_newlines hends]
    exact ⟨rfl, balance_flat (fun t ht => .inr (hends t ht)) [],
      fun t ht => hends t (List.mem_of_mem_head? ht)⟩
  | cons e es ih =>
    have hes : ∀ f ∈ es, WrittenEntry f := fun f hf => hentries f (List.mem_cons_of_mem _ hf)
    have he := hentries e (List.mem_cons_self ..)
    obtain ⟨-, hloose⟩ := sealed_newLines hindent hes hending hne
    obtain ⟨hlead, htokens⟩ := sealed_lineLead hindent he.ne_nil he.word
    replace hloose : Loose (newLines indent es ++ ending) := by
      have hnil := hloose []
      rwa [List.append_nil] at hnil
    -- The value ends where the next line starts, so the text is cleaned in three pieces.
    have hjoint : Joint e.2 (newLines indent es ++ ending) := he.value.joint _ hloose.quote
    obtain ⟨lineEnd, word, colon, htokens, hlineEnd, hword, hkey, hcolon⟩ := htokens a.length l
    have hclean : clean (lineLead indent e.1 ++ (e.2 ++ (newLines indent es ++ ending)))
        = clean (lineLead indent e.1) ++ (e.2 ++ clean (newLines indent es ++ ending)) := by
      rw [(hlead.solid _).clean_append, hjoint.clean_append, he.value.settled.clean_eq]
    have htext : s = (a ++ clean (lineLead indent e.1) ++ e.2)
        ++ clean (newLines indent es ++ ending) := by
      rw [hs, newLines_cons, hclean]
      simp
    have hlength : a.length + (lineLead indent e.1).length + e.2.length
        = (a ++ clean (lineLead indent e.1) ++ e.2).length := by simp [Nat.add_assoc]
    obtain ⟨hview, hbalance, hhead⟩ := ih hes htext []
      (l + (lineLead indent e.1).count '\n' + e.2.count '\n')
    -- The colon and the value stand on one line, and the next line starts with a newline.
    have hvalue : ∀ t ∈ colon :: tokensFrom (a.length + (lineLead indent e.1).length)
        (l + (lineLead indent e.1).count '\n') e.2, t.isInline = true := by
      refine List.forall_mem_cons.2 ⟨?_, fun t ht => ?_⟩
      · rw [Token.isInline, hcolon]
        rfl
      · rw [Token.isInline, he.value.flat _ _ t ht, Bool.true_or]
    have hopened : openedBy word = [] := by
      rw [openedBy, hword]
      rfl
    -- One property line is read, and the rest is what the induction is about.
    have hstep : Step false doc (word :: (_ ++ _)) (.line word _) [] _ :=
      .line (by rw [hword]; rfl) (hopened ▸ scanLine_flat hvalue hhead)
        fun t ht => by rw [hhead t ht]; decide
    have hdocs : ∀ t ∈ ([] : List Token), t.kind = .doc := by simp
    obtain ⟨p, hp, hpkey, hpspan, hpvalue, -⟩ := readBodyLine_property s doc
      (tokensFrom (a.length + (lineLead indent e.1).length)
        (l + (lineLead indent e.1).count '\n') e.2) hword hdocs hcolon
    rw [List.nil_append] at hp
    -- The property that is read is the entry: its key is the word, its value the trimmed slice.
    have hcontent : p.content = e := by
      have hslice : (Span.behind (a.length + (lineLead indent e.1).length) e.2).slice s = e.2 := by
        refine slice_behind (a := a ++ clean (lineLead indent e.1))
          (b := clean (newLines indent es ++ ending)) ?_ (by simp)
        rw [htext, List.append_assoc]
      rw [Property.content, hpkey, hkey, hpvalue, hpspan, he.value.span, hslice,
        Text.trim_eq_self he.value.trimmed]
    rw [newLines_cons, hlead.tokens, tokensFrom_clean_append hjoint hloose.severs,
      he.value.settled.clean_eq, htokens, hlength]
    refine ⟨?_, ?_, ?_⟩
    · -- The entry comes first among the properties, and the others behind it.
      rw [List.cons_append, contentsFrom_newline hlineEnd]
      refine (hstep.view s).trans ?_
      rw [Item.view_property hp, hcontent, hview]
      rfl
    · -- The tokens of one line open nothing, so balance goes on with the rest.
      have hline : balance [] (lineEnd :: word :: colon :: tokensFrom
          (a.length + (lineLead indent e.1).length) (l + (lineLead indent e.1).count '\n') e.2)
          = some [] := by
        refine balance_flat (List.forall_mem_cons.2 ⟨.inr hlineEnd, List.forall_mem_cons.2 ⟨.inl ?_,
          fun t ht => .inl (hvalue t ht)⟩⟩) []
        rw [Token.isInline, hword]
        rfl
      exact (balance_append_of_balanced hline [] _).trans hbalance
    · intro t ht
      obtain rfl := Option.some.inj ht
      exact hlineEnd

end

/-! ## A body with new lines -/

/-- The tokens of a body with blanks cut off at its end say the same in both texts. -/
theorem Trail.alike {X b : Text} {l : Nat} {front ends : List Token} (h : Trail X 0 l front ends) :
    Alike (SchemaDiagram.clean X) (SchemaDiagram.clean (Text.trimRight X) ++ b) id
      (Token.clip (Text.trimRight X).length) front := by
  obtain ⟨r, hr⟩ := h.clean
  have hkept := h.kept
  rw [Nat.zero_add] at hkept
  -- The tokens that are kept end where the text is trimmed, ahead of what was appended.
  have hbounds : ∀ t ∈ front, t.kind ≠ .doc →
      t.span.start ≤ (SchemaDiagram.clean (Text.trimRight X)).length ∧
        t.span.stop ≤ (SchemaDiagram.clean (Text.trimRight X)).length := by
    intro t ht hdoc
    have hmem := List.mem_map_of_mem (f := Token.clip (Text.trimRight X).length) ht
    rw [Token.clip_of_ne hdoc, ← hkept] at hmem
    have hle := bounds_of_mem_tokensFrom hmem
    omega
  -- Up to there both texts are the same.
  have hslice : ∀ {i j : Nat}, j ≤ (SchemaDiagram.clean (Text.trimRight X)).length →
      (SchemaDiagram.clean X).slice i j
        = Text.slice (SchemaDiagram.clean (Text.trimRight X) ++ b) i j := by
    intro i j hj
    rw [← hr, Text.slice_ahead hj, Text.slice_ahead hj]
  refine ⟨Keeps.id, Keeps.clip _, fun t ht hdt u hu hdu => ?_, fun t ht hdt u hu hdu => ?_⟩
  · rw [Token.clip_of_ne hdt, Token.clip_of_ne hdu]
    exact hslice (hbounds u hu hdu).2
  · rw [Token.clip_of_ne hdt, Token.clip_of_ne hdu]
    exact hslice (hbounds u hu hdu).1

/-- **A body with new lines at its end** says what it said, and then what the lines say. It is
balanced as before, nothing runs out of it, and the old values stand where they stood. -/
theorem exists_extended {X post : Text} (hb : IsBalanced X) (hclosed : HasClosedLiterals X)
    (hjoint : Joint X ('\x7d' :: post)) (hindent : InlineBlank indent)
    (hentries : ∀ e ∈ entries, WrittenEntry e) (hsome : entries ≠ []) (hending : AllBlank ending)
    (hne : ending ≠ []) {X' : Text}
    (hX' : X' = Text.trimRight X ++ (newLines indent entries ++ ending)) :
    IsBalanced X' ∧ (∀ z, Joint X' z) ∧
      bodyView X' = { bodyView X with properties := (bodyView X).properties ++ entries } ∧
      ∃ spans, (bodyContents X').valueSpans = (bodyContents X).valueSpans ++ spans := by
  obtain ⟨front, ends, htrail⟩ := exists_trail hjoint hclosed
  obtain ⟨hsealed, hloose⟩ := sealed_newLines hindent hentries hending hne
  replace hloose := (hloose []).severs
  rw [List.append_nil] at hloose
  -- The new lines start with a newline, which ends whatever stands before them.
  have hstart : ∃ z, newLines indent entries ++ ending = '\n' :: z := by
    obtain ⟨e, es, rfl⟩ := List.exists_cons_of_ne_nil hsome
    exact ⟨_, rfl⟩
  have hlines : Joint (Text.trimRight X) (newLines indent entries ++ ending) := by
    obtain ⟨z, hz⟩ := hstart
    rw [hz]
    exact htrail.joint z
  have hclean : clean X'
      = clean (Text.trimRight X) ++ clean (newLines indent entries ++ ending) := by
    rw [hX', hlines.clean_append]
  -- The old tokens are followed by those of the new lines.
  have htokens : tokenize (clean X') = front.map (Token.clip (Text.trimRight X).length)
      ++ tokensFrom (Text.trimRight X).length (1 + (Text.trimRight X).count '\n')
        (clean (newLines indent entries ++ ending)) := by
    have hkept := htrail.kept
    rw [Nat.zero_add] at hkept
    rw [tokenize, hX', tokensFrom_clean_append hlines hloose, hkept, Nat.zero_add]
  -- What was trimmed off is read as newlines, which balance nothing.
  have hends : ∀ owed, balance owed ends = some owed :=
    balance_flat fun t ht => .inr (htrail.ends t ht)
  have hfront : balance [] front = some [] := by
    rw [IsBalanced, tokenize, htrail.tokens] at hb
    exact balance_front hb (hends [])
  have hfront' : balance [] (front.map (Token.clip (Text.trimRight X).length)) = some [] := by
    rwa [balance_map (Keeps.clip _)]
  -- The contents of either text are those of the front and those of what follows.
  obtain ⟨waiting, hold⟩ := contentsFrom_append hfront []
  obtain ⟨waiting', hnew⟩ := contentsFrom_append hfront' []
  obtain ⟨hview, hbalance, hhead⟩ := view_newLines hindent hentries hending hne hclean waiting'
    (1 + (Text.trimRight X).count '\n')
  rw [length_clean] at hview hbalance hhead
  obtain ⟨holdView, holdSpans⟩ := hold (clean X) ends fun t ht =>
    htrail.ends t (List.mem_of_mem_head? ht)
  obtain ⟨hnewView, hnewSpans⟩ := hnew (clean X') _ hhead
  rw [contentsFrom_newlines htrail.ends] at holdView holdSpans
  -- The front says the same in both texts, since it is only clipped.
  have halike := contentsFrom_view (htrail.alike (b := clean (newLines indent entries ++ ending)))
    false []
  rw [← hclean, List.map_id] at halike
  refine ⟨?_, ?_, ?_, ?_⟩
  · rw [IsBalanced, htokens]
    exact (balance_append_of_balanced hfront' [] _).trans hbalance
  · intro z
    obtain ⟨lines, hlines⟩ := hstart
    have hline := htrail.joint (lines ++ z)
    rw [← List.cons_append, ← hlines] at hline
    rw [hX']
    exact Joint.trans hline (hsealed.solid z)
  · -- The view of the old text is that of the front alone, since newlines add nothing.
    have hempty : Contents.empty.view (clean X) = .empty := rfl
    rw [bodyView, bodyContents, htokens, hnewView, ← halike, hview, bodyView, bodyContents,
      tokenize, htrail.tokens, holdView, hempty, ContentsView.append_empty]
    show ContentsView.mk _ _ _ = ContentsView.mk _ _ _
    rw [List.append_nil, List.append_nil]
  · -- The old values stand where they stood, and those of the lines come behind them.
    rw [bodyContents, htokens, hnewSpans, bodyContents, tokenize, htrail.tokens, holdSpans,
      valueSpans_clip (clean X') (clean X)]
    have hempty : Contents.empty.valueSpans = [] := rfl
    rw [hempty, List.append_nil]
    exact ⟨_, rfl⟩

end SchemaDiagram

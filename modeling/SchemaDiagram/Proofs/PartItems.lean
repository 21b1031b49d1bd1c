import SchemaDiagram.Proofs.Parts

/-! # Items of parts

A part of a settings list is blank, a flag or a key and a value around its first colon. Which of
these it is, and where its key and value stand, is told by the part alone.

* **`Trimmed s`** — no blank stands at the ends of the text; `trim_eq` says what trimming leaves.
* **`Keyed`** — a part with a key and a value; `item_flag` and `Keyed.item` are the items of parts,
  `exists_shape` says that there are no others.
* **`CutsInto.splitSettings_eq`**, **`splitSettings_join`** — the items of a list are those of its
  parts. -/

namespace SchemaDiagram

/-! ## Blanks at the ends -/

/-- No blank stands at the ends of the text. -/
structure Trimmed (s : Text) : Prop where
  /-- The first character is not blank. -/
  head : ∀ c ∈ s.head?, isBlank c = false
  /-- The last character is not blank. -/
  last : ∀ c ∈ s.getLast?, isBlank c = false

namespace Trimmed

/-- No blank stands at the ends of an empty text. -/
theorem nil : Trimmed [] := ⟨by simp, by simp⟩

/-- No blank stands at the ends of any other character. -/
theorem singleton {c : Char} (h : isBlank c = false) : Trimmed [c] :=
  ⟨by simpa using h, by simpa using h⟩

/-- What stands inside a text does not matter to its ends. -/
theorem around {a b : Text} (ha : Trimmed a) (ha₀ : a ≠ []) (hb : Trimmed b) (hb₀ : b ≠ [])
    (inside : Text) : Trimmed (a ++ (inside ++ b)) := by
  refine ⟨fun c hc => ha.head c ?_, fun c hc => hb.last c ?_⟩
  · rwa [List.head?_append, Option.or_of_isSome (by simpa using ha₀)] at hc
  · rwa [List.getLast?_append, List.getLast?_append, Option.or_of_isSome (by simp [hb₀]),
      Option.or_of_isSome (by simpa using hb₀)] at hc

/-- No blank stands at the ends of two texts when none stands at the ends of either. -/
theorem append {a b : Text} (ha : Trimmed a) (hb : Trimmed b) : Trimmed (a ++ b) := by
  by_cases ha₀ : a = []
  · rwa [ha₀]
  by_cases hb₀ : b = []
  · rwa [hb₀, List.append_nil]
  · exact around ha ha₀ hb hb₀ []

end Trimmed

namespace Text

/-- Nothing is left of blanks when they are dropped at the end. -/
theorem trimRight_of_blank {b : Text} (h : AllBlank b) : trimRight b = [] := by
  induction b with
  | nil => rfl
  | cons c b ih =>
    rw [trimRight, ih fun d hd => h d (List.mem_cons_of_mem _ hd)]
    simp [h c (List.mem_cons_self ..)]

/-- Blanks at the end do not count. -/
theorem trimRight_append_blank (s : Text) {b : Text} (h : AllBlank b) :
    trimRight (s ++ b) = trimRight s := by
  induction s with
  | nil => exact trimRight_of_blank h
  | cons c s ih => rw [List.cons_append, trimRight, trimRight, ih]

/-- Where the last character is not blank there is nothing to cut off. -/
theorem trimRight_eq_self {s : Text} (h : ∀ c ∈ s.getLast?, isBlank c = false) :
    trimRight s = s := by
  induction s with
  | nil => rfl
  | cons c s ih =>
    cases s with
    | nil => simp [trimRight, h c rfl]
    | cons d s =>
      rw [trimRight, ih fun e he => h e (by rwa [List.getLast?_cons_cons])]

/-- The last character is not a blank when blanks are dropped at the end. -/
theorem last_trimRight (s : Text) : ∀ c ∈ (trimRight s).getLast?, isBlank c = false := by
  induction s with
  | nil => simp [trimRight]
  | cons c s ih =>
    rw [trimRight]
    cases hs : trimRight s with
    | nil => by_cases hc : isBlank c = true <;> simp_all
    | cons d kept =>
      rw [hs] at ih
      simpa [List.getLast?_cons_cons] using ih

/-- What is cut off on the right of a text starts behind its last character that is not blank. -/
theorem trimRight_append {s : Text} (h : ∀ c ∈ s.getLast?, isBlank c = false) (t : Text) :
    trimRight (s ++ t) = s ++ trimRight t := by
  obtain ⟨b, hb, hblank⟩ := exists_eq_trimRight_append t
  by_cases ht : trimRight t = []
  · rw [hb, ht, List.nil_append, trimRight_append_blank s hblank, trimRight_eq_self h,
      trimRight_of_blank hblank, List.append_nil]
  · have hlast : ∀ c ∈ (s ++ trimRight t).getLast?, isBlank c = false := by
      intro c hc
      rw [List.getLast?_append, Option.or_of_isSome (by simpa using ht)] at hc
      exact last_trimRight t c hc
    calc trimRight (s ++ t) = trimRight (s ++ trimRight t ++ b) := by
          rw [List.append_assoc, ← hb]
      _ = s ++ trimRight t := by rw [trimRight_append_blank _ hblank, trimRight_eq_self hlast]

/-- **Trimming cuts off the blanks at the two ends.** -/
theorem trim_eq {lead core trail : Text} (hl : AllBlank lead) (hc : Trimmed core)
    (ht : AllBlank trail) : trim (lead ++ (core ++ trail)) = core := by
  rw [trim, trimLeft, List.dropWhile_append_of_pos hl]
  cases core with
  | nil =>
    rw [List.nil_append, List.dropWhile_eq_nil_iff.2 ht]
    rfl
  | cons c core =>
    have hhead : isBlank c = false := hc.head c rfl
    rw [List.cons_append, List.dropWhile_cons_of_neg (by simp [hhead]), ← List.cons_append,
      trimRight_append_blank _ ht, trimRight_eq_self hc.last]

/-- A text without blanks at its ends is trimmed already. -/
theorem trim_eq_self {s : Text} (h : Trimmed s) : trim s = s := by
  have heq := @trim_eq [] s [] (by simp [AllBlank]) h (by simp [AllBlank])
  simpa using heq

/-- Trimming leaves no blank at the ends. -/
theorem trimmed_trim (s : Text) : Trimmed (trim s) := by
  refine ⟨fun c hc => ?_, last_trimRight _⟩
  obtain ⟨b, hb, -⟩ := exists_eq_trimRight_append (trimLeft s)
  have hhead : (trimLeft s).head? = some c := by
    rw [hb]
    change (trim s ++ b).head? = some c
    rw [List.head?_append, Option.mem_def.1 hc, Option.some_or]
  have hnot := List.head?_dropWhile_not isBlank s
  rw [trimLeft] at hhead
  rw [hhead] at hnot
  simpa using hnot

/-- A text is its trimmed text between blanks. -/
theorem exists_eq_trim (s : Text) :
    ∃ lead trail, s = lead ++ (trim s ++ trail) ∧ AllBlank lead ∧ AllBlank trail := by
  obtain ⟨trail, htrail, hblank⟩ := exists_eq_trimRight_append (trimLeft s)
  refine ⟨s.takeWhile isBlank, trail, ?_, fun c hc => List.mem_takeWhile_imp hc, hblank⟩
  rw [trim, ← htrail]
  exact (takeWhile_append_trimLeft s).symm

/-- Blanks at the end of a text do not count. -/
theorem trim_append_blank (s : Text) {b : Text} (hb : AllBlank b) : trim (s ++ b) = trim s := by
  obtain ⟨lead, trail, hs, hl, ht⟩ := exists_eq_trim s
  rw [hs, List.append_assoc, List.append_assoc, trim_eq hl (trimmed_trim s) (ht.append hb),
    trim_eq hl (trimmed_trim s) ht]

end Text

/-- Where the last character is not blank, no blanks are at the end. -/
theorem AllBlank.eq_nil {s b : Text} (hb : AllBlank b)
    (h : ∀ c ∈ (s ++ b).getLast?, isBlank c = false) : b = [] := by
  cases hlast : b.getLast? with
  | none => exact List.getLast?_eq_none_iff.1 hlast
  | some c =>
    have hc := h c (by rw [List.getLast?_append, hlast, Option.some_or]; rfl)
    rw [hb c (List.mem_of_getLast? hlast)] at hc
    cases hc

/-! ## Spans in a text -/

/-- The span of a text behind another one. -/
def Span.behind (n : Nat) (s : Text) : Span := ⟨n, n + s.length⟩

/-- A span is as long as the text it stands for. -/
@[simp] theorem Span.length_behind (n : Nat) (s : Text) : (Span.behind n s).length = s.length := by
  simp [Span.behind, Span.length]

/-- A stretch of a text is what stands at its span. -/
theorem slice_behind {text a m b : Text} {n : Nat} (h : text = a ++ (m ++ b)) (hn : n = a.length) :
    (Span.behind n m).slice text = m := by
  rw [Span.slice, Span.behind, Text.slice, h, hn, List.drop_left, Nat.add_sub_cancel_left,
    List.take_left]

/-- **Trimming a span** leaves the span of the text between the blanks, and that text stands
there. -/
theorem trim_behind {text a lead core trail b : Text} {n : Nat}
    (h : text = a ++ (lead ++ (core ++ trail) ++ b)) (hn : n = a.length) (hl : AllBlank lead)
    (hc : Trimmed core) (ht : AllBlank trail) (hne : core = [] → lead = [] ∧ trail = []) :
    (Span.behind n (lead ++ (core ++ trail))).trim text = .behind (n + lead.length) core ∧
      (Span.behind (n + lead.length) core).slice text = core := by
  have hcore : text = (a ++ lead) ++ (core ++ (trail ++ b)) := by
    rw [h]
    simp
  refine ⟨?_, slice_behind hcore (by rw [hn, List.length_append])⟩
  have hslice : (Span.behind n (lead ++ (core ++ trail))).slice text = lead ++ (core ++ trail) :=
    slice_behind h hn
  -- What is cut off in front is exactly the blanks there, since the core starts with none.
  have hlead : (lead ++ (core ++ trail)).takeWhile isBlank = lead := by
    refine (takeWhile_of_head hl fun c hc' => ?_).1
    cases core with
    | nil =>
      obtain ⟨rfl, rfl⟩ := hne rfl
      cases hc'
    | cons d core => exact hc.head c hc'
  rw [Span.trim, hslice]
  simp only [hlead, Text.trim_eq hl hc ht]
  rfl

/-! ## Flags, keys and values -/

/-- The quote that is open behind a character; a backslash has no meaning. -/
def quoteBehind (quote : Option Char) (c : Char) : Option Char :=
  match quote with
  | some q => if c = q then none else some q
  | none => if isQuoteChar c then some c else none

/-- A colon is looked for one character after the other, outside quotes. -/
theorem firstColon?_cons (quote : Option Char) (c : Char) (rest : Text) :
    firstColon? quote (c :: rest)
      = if quote = none ∧ c = ':' then some 0
        else (firstColon? (quoteBehind quote c) rest).map (· + 1) := by
  have hcolon : isQuoteChar ':' = false := by decide
  cases quote with
  | some q => simp [firstColon?, quoteBehind]
  | none =>
    rw [firstColon?, quoteBehind]
    by_cases hq : isQuoteChar c = true
    · have hc : c ≠ ':' := by rintro rfl; simp [hcolon] at hq
      simp [hq, hc]
    · simp [hq]

/-- The first colon cuts the text. -/
theorem exists_of_firstColon? {quote : Option Char} {s : Text} {i : Nat}
    (h : firstColon? quote s = some i) : ∃ key rest, s = key ++ ':' :: rest ∧ key.length = i := by
  induction s generalizing quote i with
  | nil => cases h
  | cons c s ih =>
    rw [firstColon?_cons] at h
    split at h
    next hc => exact ⟨[], s, by rw [hc.2]; rfl, Option.some.inj h⟩
    next =>
      obtain ⟨j, hj, rfl⟩ := Option.map_eq_some_iff.1 h
      obtain ⟨key, rest, rfl, rfl⟩ := ih hj
      exact ⟨c :: key, rest, rfl, rfl⟩

/-- Where the first colon stands is told by what stands before it. -/
theorem firstColon?_append {quote : Option Char} {key t : Text}
    (h : firstColon? quote (key ++ ':' :: t) = some key.length) (t' : Text) :
    firstColon? quote (key ++ ':' :: t') = some key.length := by
  induction key generalizing quote with
  -- The key is used up, and the colon stands next whatever follows it.
  | nil =>
    rw [List.nil_append, firstColon?_cons] at h ⊢
    split at h
    next hc => rw [if_pos hc]; rfl
    next => simp at h
  | cons c key ih =>
    rw [List.cons_append, firstColon?_cons] at h ⊢
    split at h
    next => simp at h
    -- Another character moves the state and leaves the colon ahead.
    next hc =>
      rw [if_neg hc]
      obtain ⟨j, hj, hlen⟩ := Option.map_eq_some_iff.1 h
      obtain rfl : j = key.length := by simpa using hlen
      rw [ih hj]
      rfl

/-- The first colon of a text stands in it. -/
theorem firstColon?_lt {quote : Option Char} {s : Text} {i : Nat}
    (h : firstColon? quote s = some i) :
    i < s.length := by
  obtain ⟨key, rest, rfl, rfl⟩ := exists_of_firstColon? h
  rw [List.length_append, List.length_cons]
  omega

/-- The first colon of two texts stands in the first one, or in the second one with the quote that
is open there. -/
theorem firstColon?_append_eq (quote : Option Char) (s t : Text) :
    firstColon? quote (s ++ t) = (firstColon? quote s).or
      ((firstColon? (s.foldl quoteBehind quote) t).map (· + s.length)) := by
  induction s generalizing quote with
  | nil => simp [firstColon?]
  | cons c s ih =>
    rw [List.cons_append, firstColon?_cons, firstColon?_cons]
    split
    · rfl
    · rw [ih, Option.map_or, Option.map_map]
      rfl

/-- A part with a key and a value: `lead key : gap value trail`. -/
structure Keyed (lead key gap value trail : Text) : Prop where
  /-- Blanks stand before the key. -/
  blank_lead : AllBlank lead
  /-- Blanks stand before the value. -/
  blank_gap : AllBlank gap
  /-- Blanks stand behind the value. -/
  blank_trail : AllBlank trail
  /-- The colon behind the key is the first one. -/
  colon : firstColon? none (key ++ [':']) = some key.length
  /-- The key starts with no blank. -/
  head : ∀ c ∈ key.head?, isBlank c = false
  /-- No blanks belong to the value. -/
  trimmed : Trimmed value
  /-- Without a value all blanks stand behind it. -/
  gap_nil : value = [] → gap = []

/-- The text of a part with a key and a value. -/
def keyedText (lead key gap value trail : Text) : Text :=
  lead ++ (key ++ ':' :: (gap ++ value) ++ trail)

/-- A span that is moved starts further behind. -/
@[simp] theorem Span.shift_behind (n m : Nat) (s : Text) :
    (Span.behind n s).shift m = .behind (n + m) s := by
  simp [Span.behind, Span.shift, Nat.add_right_comm]

/-- **The item of a flag.** -/
theorem item_flag {text a lead core trail b : Text} {n : Nat}
    (h : text = a ++ (lead ++ (core ++ trail) ++ b)) (hn : n = a.length) (hl : AllBlank lead)
    (hc : Trimmed core) (ht : AllBlank trail) (hne : core ≠ [])
    (hcolon : firstColon? none core = none) (base : Nat) :
    itemOfChunk? text base (.behind n (lead ++ (core ++ trail)))
      = some ⟨normalizeKey core, "true", .behind (n + lead.length + base) core,
          .behind (n + lead.length + base) core, none⟩ := by
  have hlen : core.length ≠ 0 := by simpa using hne
  obtain ⟨htrim, hslice⟩ := trim_behind h hn hl hc ht fun hnil => absurd hnil hne
  rw [itemOfChunk?, htrim]
  simp only [Span.length_behind, hlen, if_false, hslice, hcolon, Span.shift_behind]

namespace Keyed

variable {lead key gap value trail : Text}

/-- No blanks stand at the ends of a key and a value around their colon. -/
theorem trimmed_core (h : Keyed lead key gap value trail) :
    Trimmed (key ++ ':' :: (gap ++ value)) := by
  -- A blank in front would be the key's, or the colon itself if there is no key.
  refine ⟨fun c hc => ?_, fun c hc => ?_⟩
  · cases key with
    | nil =>
      cases hc
      decide
    | cons d key => exact h.head c hc
  · -- At the end stands the value, or the colon if there is none.
    rw [List.getLast?_append, List.getLast?_cons, Option.some_or] at hc
    by_cases hv : value = []
    · rw [hv, h.gap_nil hv] at hc
      cases hc
      decide
    · refine h.trimmed.last c ?_
      rw [List.getLast?_append, Option.or_of_isSome (by simpa using hv)] at hc
      obtain ⟨d, hd⟩ := Option.isSome_iff_exists.1 (by simpa using hv : value.getLast?.isSome)
      rw [hd] at hc ⊢
      exact hc

/-- A key is what trimming leaves of it, and blanks behind that. -/
theorem exists_key (h : Keyed lead key gap value trail) :
    ∃ blanks, key = key.trim ++ blanks ∧ AllBlank blanks ∧ (key.trim = [] → blanks = []) := by
  obtain ⟨front, blanks, heq, hfront, hblanks⟩ := Text.exists_eq_trim key
  -- A key of blanks alone would begin with a blank, which it does not.
  cases front with
  | nil =>
    refine ⟨blanks, heq, hblanks, fun hnil => ?_⟩
    rw [hnil, List.nil_append, List.nil_append] at heq
    cases blanks with
    | nil => rfl
    | cons c blanks =>
      have hc := h.head c (by rw [heq]; rfl)
      rw [hblanks c (List.mem_cons_self ..)] at hc
      cases hc
  | cons c front =>
    have hc := h.head c (by rw [heq]; rfl)
    rw [hfront c (List.mem_cons_self ..)] at hc
    cases hc

/-- **The item of a key and a value.** -/
theorem item (hk : Keyed lead key gap value trail) {text a b : Text} {n : Nat}
    (h : text = a ++ (keyedText lead key gap value trail ++ b)) (hn : n = a.length) (base : Nat) :
    itemOfChunk? text base (.behind n (keyedText lead key gap value trail))
      = some ⟨normalizeKey key.trim, value,
          .behind (n + lead.length + base) (key ++ ':' :: (gap ++ value)),
          .behind (n + lead.length + base) key.trim,
          some (.behind (n + lead.length + key.length + 1 + gap.length + base) value)⟩ := by
  obtain ⟨blanks, hkey, hblanks, hnil⟩ := hk.exists_key
  have hcore : text = a ++ (lead ++ ((key ++ ':' :: (gap ++ value)) ++ trail) ++ b) := h
  have hkeyed : text = a ++ lead ++ ([] ++ (key.trim ++ blanks) ++
      (':' :: (gap ++ value) ++ trail ++ b)) := by
    rw [← hkey, h, keyedText]
    simp
  have hvalued : text = a ++ lead ++ key ++ [':'] ++ (gap ++ (value ++ []) ++ (trail ++ b)) := by
    rw [h, keyedText]
    simp
  have hlen : n + lead.length = (a ++ lead).length := by rw [hn, List.length_append]
  have hlen' : n + lead.length + key.length + 1 = (a ++ lead ++ key ++ [':']).length := by
    rw [hlen]
    simp only [List.length_append, List.length_cons, List.length_nil]
  -- The three spans: of the item, of its key and of its value.
  obtain ⟨htrim, hslice⟩ := trim_behind hcore hn hk.blank_lead hk.trimmed_core hk.blank_trail
    fun hnil => by simp at hnil
  obtain ⟨htrimKey, hsliceKey⟩ := trim_behind hkeyed hlen (by simp [AllBlank])
    (Text.trimmed_trim key) hblanks fun hnil' => ⟨rfl, hnil hnil'⟩
  obtain ⟨htrimValue, hsliceValue⟩ := trim_behind hvalued hlen' hk.blank_gap hk.trimmed
    (by simp [AllBlank]) fun hnil => ⟨hk.gap_nil hnil, rfl⟩
  rw [List.nil_append, ← hkey] at htrimKey
  rw [List.append_nil] at htrimValue
  generalize hwhole : Span.behind (n + lead.length) (key ++ ':' :: (gap ++ value)) = whole
    at htrim hslice
  have hspanKey : Span.mk whole.start (whole.start + key.length)
      = .behind (n + lead.length) key := by
    rw [← hwhole]
    rfl
  have hspanValue : Span.mk (whole.start + key.length + 1) whole.stop
      = .behind (n + lead.length + key.length + 1) (gap ++ value) := by
    rw [← hwhole]
    simp only [Span.behind, List.length_append, List.length_cons]
    congr 1
    omega
  have hcolon : firstColon? none (key ++ ':' :: (gap ++ value)) = some key.length :=
    firstColon?_append hk.colon _
  have hpos : whole.length ≠ 0 := by
    rw [← hwhole]
    simp
  rw [itemOfChunk?, keyedText, htrim]
  simp only [hpos, if_false, hslice, hcolon, hspanKey, hspanValue, htrimKey, htrimValue, hsliceKey,
    hsliceValue, Span.shift_behind]
  rw [← hwhole, Span.shift_behind]
  rfl

end Keyed

/-- A blank part has no item. -/
theorem item_blank {text a p b : Text} {n : Nat} (h : text = a ++ (p ++ b)) (hn : n = a.length)
    (hp : AllBlank p) (base : Nat) : itemOfChunk? text base (.behind n p) = none := by
  have hbody : (Span.behind n p).slice text = p := slice_behind h hn
  have htrim : Text.trim p = [] := by
    rw [Text.trim, Text.trimLeft, List.dropWhile_eq_nil_iff.2 hp]
    rfl
  rw [itemOfChunk?, Span.trim, hbody]
  simp [htrim, Span.length]

/-! ## Items of parts -/

/-- The shapes of parts. -/
inductive Shape : Text → Prop
  | blank {p : Text} (h : AllBlank p) : Shape p
  | flag {lead core trail : Text} (hl : AllBlank lead) (hc : Trimmed core) (ht : AllBlank trail)
      (hne : core ≠ []) (hcolon : firstColon? none core = none) : Shape (lead ++ (core ++ trail))
  | keyed {lead key gap value trail : Text} (h : Keyed lead key gap value trail) :
      Shape (keyedText lead key gap value trail)

/-- **Every part is blank, a flag, or a key and a value.** -/
theorem Shape.of (p : Text) : Shape p := by
  obtain ⟨lead, trail, hp, hl, ht⟩ := p.exists_eq_trim
  have hc := Text.trimmed_trim p
  generalize p.trim = core at hp hc
  subst hp
  by_cases hne : core = []
  · rw [hne]
    exact .blank fun c hcm => by
      rcases List.mem_append.1 hcm with h | h
      · exact hl c h
      · exact ht c h
  · cases hcolon : firstColon? none core with
    | none => exact .flag hl hc ht hne hcolon
    | some i =>
      obtain ⟨key, rest, rfl, rfl⟩ := exists_of_firstColon? hcolon
      obtain ⟨gap, back, hrest, hgap, hback⟩ := Text.exists_eq_trim rest
      have hvalue := Text.trimmed_trim rest
      generalize Text.trim rest = value at hrest hvalue
      subst hrest
      -- The part ends with no blank before its trail.
      have hend : back = [] := by
        refine hback.eq_nil (s := key ++ ':' :: (gap ++ value)) fun c hc' => hc.last c ?_
        rwa [List.append_assoc, List.cons_append, List.append_assoc] at hc'
      subst hend
      rw [List.append_nil] at hc hcolon ⊢
      refine .keyed ⟨hl, hgap, ht, firstColon?_append hcolon [], fun c hc' => hc.head c ?_, hvalue,
        fun hnil => ?_⟩
      · rw [List.head?_append, Option.mem_def.1 hc', Option.some_or]
        rfl
      · refine hgap.eq_nil (s := key ++ [':']) fun c hc' => hc.last c ?_
        rwa [hnil, List.append_nil, ← List.singleton_append, ← List.append_assoc]

/-- The item with its spans moved. -/
def SettingItem.shift (n : Nat) (item : SettingItem) : SettingItem :=
  { item with
    span := item.span.shift n
    keySpan := item.keySpan.shift n
    valueSpan := item.valueSpan.map (·.shift n) }

/-- The item of a part. -/
def partItem? (p : Text) : Option SettingItem := itemOfChunk? p 0 (.behind 0 p)

section

variable {lead key core gap value trail p : Text}

/-- A part is a text of its own. -/
theorem eq_between (p : Text) : p = [] ++ (p ++ []) := by simp

/-- A blank part is no item. -/
theorem partItem?_blank (hp : AllBlank p) : partItem? p = none :=
  item_blank (eq_between p) (rfl : 0 = ([] : Text).length) hp 0

/-- A part without a colon is a flag, which is set. -/
theorem partItem?_flag (hl : AllBlank lead) (hc : Trimmed core) (ht : AllBlank trail)
    (hne : core ≠ []) (hcolon : firstColon? none core = none) :
    partItem? (lead ++ (core ++ trail))
      = some ⟨normalizeKey core, "true", .behind lead.length core, .behind lead.length core,
      none⟩ := by
  rw [partItem?, item_flag (eq_between _) (rfl : 0 = ([] : Text).length) hl hc ht hne hcolon,
    Nat.zero_add]
  rfl

/-- A part with a colon is a key with its value. -/
theorem partItem?_keyed (h : Keyed lead key gap value trail) :
    partItem? (keyedText lead key gap value trail)
      = some ⟨normalizeKey key.trim, value, .behind lead.length (key ++ ':' :: (gap ++ value)),
          .behind lead.length key.trim,
          some (.behind (lead.length + key.length + 1 + gap.length) value)⟩ := by
  rw [partItem?, h.item (eq_between _) (rfl : 0 = ([] : Text).length), Nat.zero_add]
  rfl

end

/-- **The item of a chunk is told by its characters**, places apart. -/
theorem itemOfChunk?_behind {text a p b : Text} {n : Nat} (h : text = a ++ (p ++ b))
    (hn : n = a.length) (base : Nat) :
    itemOfChunk? text base (.behind n p) = (partItem? p).map (SettingItem.shift (n + base)) := by
  cases Shape.of p with
  | blank hp => rw [item_blank h hn hp, partItem?_blank hp, Option.map_none]
  | flag hl hc ht hne hcolon =>
    rw [item_flag h hn hl hc ht hne hcolon, partItem?_flag hl hc ht hne hcolon]
    simp only [Option.map_some, SettingItem.shift, Span.shift_behind, Option.map_none, Nat.add_comm,
      Nat.add_left_comm, Nat.add_assoc]
  | keyed hk =>
    rw [hk.item h hn, partItem?_keyed hk]
    simp only [Option.map_some, SettingItem.shift, Span.shift_behind, Nat.add_comm,
      Nat.add_left_comm, Nat.add_assoc]

/-- Blanks behind a part do not change its item. -/
theorem partItem?_append_blank (p : Text) {b : Text} (hb : AllBlank b) :
    partItem? (p ++ b) = partItem? p := by
  cases Shape.of p with
  | blank hp => rw [partItem?_blank hp, partItem?_blank (hp.append hb)]
  | flag hl hc ht hne hcolon =>
    rw [partItem?_flag hl hc ht hne hcolon, List.append_assoc, List.append_assoc,
      partItem?_flag hl hc (ht.append hb) hne hcolon]
  | @keyed lead key gap value trail hk =>
    have hk' : Keyed lead key gap value (trail ++ b) :=
      { hk with blank_trail := hk.blank_trail.append hb }
    have htext : keyedText lead key gap value trail ++ b
        = keyedText lead key gap value (trail ++ b) := by
      simp [keyedText]
    rw [htext, partItem?_keyed hk', partItem?_keyed hk]

/-- A part without an item is blank. -/
theorem allBlank_of_partItem? {p : Text} (h : partItem? p = none) : AllBlank p := by
  cases Shape.of p with
  | blank hp => exact hp
  | flag hl hc ht hne hcolon => rw [partItem?_flag hl hc ht hne hcolon] at h; cases h
  | keyed hk => rw [partItem?_keyed hk] at h; cases h

/-- **The item of a part spans the part without the blanks at its ends.** -/
theorem exists_span {p : Text} {item : SettingItem} (h : item ∈ partItem? p) :
    ∃ lead trail, p = lead ++ (p.trim ++ trail) ∧ AllBlank lead ∧ AllBlank trail ∧
      item.span = .behind lead.length p.trim := by
  cases Shape.of p with
  | blank hp => rw [partItem?_blank hp] at h; cases h
  | @flag lead core trail hl hc ht hne hcolon =>
    rw [partItem?_flag hl hc ht hne hcolon] at h
    cases h
    rw [Text.trim_eq hl hc ht]
    exact ⟨lead, trail, rfl, hl, ht, rfl⟩
  | @keyed lead key gap value trail hk =>
    rw [partItem?_keyed hk] at h
    cases h
    have htrim : (keyedText lead key gap value trail).trim = key ++ ':' :: (gap ++ value) :=
      Text.trim_eq hk.blank_lead hk.trimmed_core hk.blank_trail
    rw [htrim]
    exact ⟨lead, trail, rfl, hk.blank_lead, hk.blank_trail, rfl⟩

/-! ## Items of lists -/

/-- The items of parts with commas between them, from offset `o` on. -/
def itemsFrom (o : Nat) : List Text → List SettingItem
  | [] => []
  | p :: ps => ((partItem? p).map (SettingItem.shift o)).toList ++ itemsFrom (o + p.length + 1) ps

/-- A part of a list stands in its text, and the parts behind its comma do. -/
theorem exists_behind {text a p : Text} {ps : List Text}
    (h : text = a ++ Text.join [','] (p :: ps)) :
    ∃ b, text = a ++ (p ++ b) ∧ (ps = [] ∨ text = (a ++ p ++ [',']) ++ Text.join [','] ps) := by
  cases ps with
  | nil => exact ⟨[], by rw [h]; simp, .inl rfl⟩
  | cons q ps =>
    exact ⟨',' :: Text.join [','] (q :: ps), by rw [h, Text.join_cons_cons]; simp,
      .inr (by rw [h, Text.join_cons_cons]; simp)⟩

/-- A comma behind a part counts as one character. -/
theorem length_behind (a p : Text) : (a ++ p ++ [',']).length = a.length + p.length + 1 := by
  rw [List.length_append, List.length_append, List.length_singleton]

/-- The items of a text are those of its parts, moved to where the text starts. -/
theorem filterMap_spansFrom {text a : Text} {ps : List Text} (h : text = a ++ Text.join [','] ps)
    (base : Nat) :
    (spansFrom a.length ps).filterMap (itemOfChunk? text base)
      = itemsFrom (a.length + base) ps := by
  induction ps generalizing a with
  | nil => rfl
  | cons p ps ih =>
    obtain ⟨b, hb, hrest⟩ := exists_behind h
    -- The rest starts behind the comma, one further on.
    have hps : (spansFrom (a.length + p.length + 1) ps).filterMap (itemOfChunk? text base)
        = itemsFrom (a.length + p.length + 1 + base) ps := by
      rcases hrest with rfl | hrest
      · rfl
      · have hih := ih hrest
        rwa [length_behind] at hih
    have hitem := itemOfChunk?_behind hb rfl base
    rw [Span.behind] at hitem
    rw [spansFrom, itemsFrom, List.filterMap_cons, hitem, hps, Nat.add_right_comm _ base,
      Nat.add_right_comm _ base]
    cases (partItem? p).map (SettingItem.shift (a.length + base)) <;> rfl

/-- **The items of a text are those of its parts**, whatever is open at its end. -/
theorem CutsInto.splitSettings_eq {s : Text} {ps : List Text} (h : CutsInto s ps) (base : Nat) :
    splitSettings s base = itemsFrom base ps := by
  have hitems := filterMap_spansFrom (a := []) h.eq_join base
  rw [List.length_nil, Nat.zero_add] at hitems
  rw [splitSettings, chunks, h.chunks_eq, hitems]

/-- **The items of a list are those of its parts.** -/
theorem splitSettings_join {ps : List Text} (hne : ps ≠ []) (h : ∀ p ∈ ps, IsChunk p) :
    splitSettings (Text.join [','] ps) 0 = itemsFrom 0 ps :=
  (cutsInto_join hne h).splitSettings_eq 0

end SchemaDiagram

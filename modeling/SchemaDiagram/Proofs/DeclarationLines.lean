import SchemaDiagram.Proofs.FieldSettings
import SchemaDiagram.Proofs.TopLevel

/-! # Several declarations on a line

A line is split into declarations behind the settings list of each. Whatever the line holds, nothing
but blanks is lost. Where every declaration but the last one has a settings list, and the quotes,
parentheses and brackets of each are closed, the declarations are found as they were written: array
suffixes and brackets in arguments open no list, and the bracket that is found for a list is the one
that closes it.

* **`CoveredBy s parts`** — the parts stand in the text, in order, with nothing but blanks besides
  them.
* **`Bracketed s`** — a text whose quotes and square brackets are closed; with `Outer`, for quotes
  and parentheses, these are passed as a whole by the two searches for brackets.
* **`FieldDeclaration`** — a declaration by its name, type and settings; `declarationEnd?_written`
  is where it ends.
* **`splitDeclarations_separates`** — what the splitting of a line gives. -/

namespace SchemaDiagram

/-! ## Slices of a line -/

/-- **The parts of a text**, in order and without overlap, with blanks before, between and behind
them. -/
inductive CoveredBy : Text → List Text → Prop
  | blank {s : Text} (h : AllBlank s) : CoveredBy s []
  | slice {lead part rest : Text} {parts : List Text} (hlead : AllBlank lead) (hne : part ≠ [])
      (htrim : Trimmed part) (hrest : CoveredBy rest parts) :
      CoveredBy (lead ++ (part ++ rest)) (part :: parts)

namespace CoveredBy

variable {s lead trail part : Text} {parts : List Text}

/-- Blanks ahead of a text belong to no part. -/
theorem blanks_append (hlead : AllBlank lead) (h : CoveredBy s parts) :
    CoveredBy (lead ++ s) parts := by
  cases h with
  | blank hs => exact .blank (hlead.append hs)
  | slice hfirst hne htrim hrest =>
    rw [← List.append_assoc]
    exact .slice (hlead.append hfirst) hne htrim hrest

/-- Nor do blanks behind it. -/
theorem append_blanks (h : CoveredBy s parts) (htrail : AllBlank trail) :
    CoveredBy (s ++ trail) parts := by
  induction h with
  | blank hs => exact .blank (hs.append htrail)
  | slice hlead hne htrim _ ih =>
    rw [List.append_assoc, List.append_assoc]
    exact .slice hlead hne htrim ih

/-- Blanks around the parts change nothing. -/
theorem of_trim (h : CoveredBy s.trim parts) : CoveredBy s parts := by
  obtain ⟨lead, trail, hs, hlead, htrail⟩ := Text.exists_eq_trim s
  rw [hs]
  exact blanks_append hlead (h.append_blanks htrail)

/-- A part may stand at the start of a text. -/
theorem cons (hne : part ≠ []) (htrim : Trimmed part) (h : CoveredBy s parts) :
    CoveredBy (part ++ s) (part :: parts) :=
  have hlead : AllBlank [] := fun _ h => absurd h List.not_mem_nil
  slice hlead hne htrim h

/-- A trimmed text is a part of itself. -/
theorem self (hne : part ≠ []) (htrim : Trimmed part) : CoveredBy part [part] := by
  have h := cons hne htrim (blank (s := []) fun _ h => absurd h List.not_mem_nil)
  rwa [List.append_nil] at h

end CoveredBy

/-- The start of a trimmed text without the blanks at its end. -/
theorem Trimmed.take {s : Text} (h : Trimmed s) {n : Nat} (hn : 0 < n) (hs : s ≠ []) :
    Text.trimRight (s.take n) ≠ [] ∧ Trimmed (Text.trimRight (s.take n)) := by
  obtain ⟨c, s, rfl⟩ := List.exists_cons_of_ne_nil hs
  obtain ⟨n, rfl⟩ := Nat.exists_eq_succ_of_ne_zero hn.ne'
  have hc : ∀ d ∈ [c].getLast?, isBlank d = false := h.head
  have htake : Text.trimRight ((c :: s).take (n + 1)) = c :: Text.trimRight (s.take n) :=
    Text.trimRight_append hc (s.take n)
  refine ⟨by rw [htake]; exact List.cons_ne_nil _ _, ⟨fun d hd => ?_, Text.last_trimRight _⟩⟩
  rw [htake] at hd
  exact h.head d hd

/-- **Splitting loses nothing but blanks.** -/
theorem coveredBy_splitTrimmed {s : Text} (h : Trimmed s) : CoveredBy s (splitTrimmed s) := by
  fun_induction splitTrimmed s with
  | case1 => exact .blank fun _ h => absurd h List.not_mem_nil
  | case2 s hs => exact .self hs h
  | case3 s hs n hend ih =>
    -- Blanks are cut off on both sides of the cut; those before it go to the next part.
    obtain ⟨hne, htrim⟩ := h.take (declarationEnd?_pos hend) hs
    obtain ⟨blanks, htake, hblanks⟩ := Text.exists_eq_trimRight_append (s.take n)
    have hrest := CoveredBy.blanks_append hblanks (ih (Text.trimmed_trim _)).of_trim
    have hcut := hrest.cons hne htrim
    rwa [← List.append_assoc, ← htake, List.take_append_drop] at hcut

/-! ## Passing over closed texts -/

/-- A text whose quotes and square brackets are closed. -/
inductive Bracketed : Text → Prop
  | nil : Bracketed []
  | plain {c : Char} {s : Text} (hquote : isQuoteChar c = false) (hopen : c ≠ '[')
    (hclose : c ≠ ']')
      (hs : Bracketed s) : Bracketed (c :: s)
  | quoted {m : Char} {t s : Text} (hm : isQuoteChar m = true) (ht : m ∉ t) (hs : Bracketed s) :
      Bracketed (inQuotes m t ++ s)
  | list {t s : Text} (ht : Bracketed t) (hs : Bracketed s) : Bracketed ('[' :: (t ++ ']' :: s))

section

variable (depth pos : Nat) (w : Text)

/-- An opening bracket inside brackets is counted. -/
theorem matchingBracket_open :
    matchingBracket none depth pos ('[' :: w) = matchingBracket none (depth + 1) (pos + 1) w := rfl

/-- A closing bracket inside further brackets is counted. -/
theorem matchingBracket_close :
    matchingBracket none (depth + 2) pos (']' :: w) = matchingBracket none (depth + 1)
      (pos + 1) w := rfl

/-- An opening parenthesis is counted where settings are looked for. -/
theorem settingsBounds?_open :
    settingsBounds? none depth pos ('(' :: w) = settingsBounds? none (depth + 1) (pos + 1) w := by
  rw [settingsBounds?.eq_def]
  rfl

/-- A closing parenthesis is counted where settings are looked for. -/
theorem settingsBounds?_close :
    settingsBounds? none (depth + 1) pos (')' :: w) = settingsBounds? none depth (pos + 1) w := by
  rw [settingsBounds?.eq_def]
  rfl

/-- An array suffix opens no list. -/
theorem settingsBounds?_suffix :
    settingsBounds? none 0 pos ('[' :: ']' :: w) = settingsBounds? none 0 (pos + 2) w := by
  rw [settingsBounds?.eq_def]
  rfl

end

/-- A closed text does not start with a closing bracket. -/
theorem Bracketed.head_ne {s : Text} (h : Bracketed s) : ∀ c ∈ s.head?, c ≠ ']' := by
  intro c hc
  cases h with
  | nil => cases hc
  | plain _ _ hclose => exact Option.some.inj hc ▸ hclose
  | quoted hm =>
    cases hc
    rintro rfl
    cases hm
  | list =>
    cases hc
    decide

/-- Characters that are no quotes and no brackets may stand ahead of a closed text. -/
theorem Bracketed.plain_append {x s : Text}
    (hx : ∀ c ∈ x, isQuoteChar c = false ∧ c ≠ '[' ∧ c ≠ ']') (hs : Bracketed s) :
    Bracketed (x ++ s) := by
  induction x with
  | nil => exact hs
  | cons c x ih =>
    obtain ⟨⟨hquote, hopen, hclose⟩, hx⟩ := List.forall_mem_cons.1 hx
    exact .plain hquote hopen hclose (ih hx)

/-- **The closing bracket stands behind a closed text.** -/
theorem Bracketed.matchingBracket {s : Text} (h : Bracketed s) (depth pos : Nat) (w : Text) :
    matchingBracket none (depth + 1) pos (s ++ w)
      = matchingBracket none (depth + 1) (pos + s.length) w := by
  induction h generalizing depth pos w with
  | nil => rfl
  | @plain c s hquote hopen hclose _ ih =>
    have hfirst := matchingBracket_plain (x := [c])
      (List.forall_mem_singleton.2 ⟨hquote, hopen, hclose⟩) (depth + 1) pos (s ++ w)
    exact hfirst.trans ((ih depth (pos + 1) w).trans (by
      rw [List.length_cons, Nat.add_assoc, Nat.add_comm 1]))
  | @quoted m t s hm ht _ ih =>
    have hquoted : Quoted (inQuotes m t) :=
      .cons hm (fun c hc heq => ht (heq ▸ hc)) .nil
    rw [List.append_assoc, hquoted.matchingBracket, ih, List.length_append, Nat.add_assoc]
  | @list t s _ _ iht ihs =>
    have hlen : pos + ('[' :: (t ++ ']' :: s)).length = pos + 1 + t.length + 1 + s.length := by
      simp only [List.length_cons, List.length_append]
      omega
    -- The inner list stands one level deeper, where its own bracket does not end the search.
    rw [hlen, List.cons_append, List.append_assoc, List.cons_append, matchingBracket_open, iht,
      matchingBracket_close, ihs]

/-- An open quote is closed by the next one of its kind. -/
theorem settingsBounds?_inside {m : Char} {t : Text} (ht : m ∉ t) (depth pos : Nat) (w : Text) :
    settingsBounds? (some m) depth pos (t ++ m :: w)
      = settingsBounds? none depth (pos + (t.length + 1)) w := by
  induction t generalizing pos with
  | nil =>
    rw [List.nil_append, settingsBounds?.eq_def]
    simp
  | cons c t ih =>
    obtain ⟨hc, ht⟩ := not_or.1 (mt List.mem_cons.2 ht)
    rw [List.cons_append, settingsBounds?.eq_def]
    simp only [Ne.symm hc, if_false]
    rw [ih ht, List.length_cons, Nat.add_assoc, Nat.add_comm 1]

/-- **No list opens between parentheses**: a closed text is passed as a whole. -/
theorem Outer.settingsBounds? {p : Char → Prop} {s : Text} (h : Outer p s) (depth pos : Nat)
    (w : Text) :
    settingsBounds? none (depth + 1) pos (s ++ w)
      = settingsBounds? none (depth + 1) (pos + s.length) w := by
  -- The depth is above zero all the way, so no bracket starts a list.
  induction h generalizing depth pos w with
  | nil => rfl
  | @plain _ c s _ hquote hopen hclose _ ih =>
    rw [List.cons_append, settingsBounds?.eq_def]
    simp only [hquote, hopen, hclose, Nat.add_one_ne_zero, and_false, Bool.false_eq_true, if_false]
    rw [ih, List.length_cons, Nat.add_assoc, Nat.add_comm 1]
  -- A quoted text is passed up to its second quote, whatever stands in it.
  | @quoted _ m t s hm ht _ ih =>
    have htext : SchemaDiagram.inQuotes m t ++ s ++ w = m :: (t ++ m :: (s ++ w)) := by
      simp [SchemaDiagram.inQuotes]
    have hlen : pos + (SchemaDiagram.inQuotes m t ++ s).length
        = pos + 1 + (t.length + 1) + s.length := by
      simp only [SchemaDiagram.inQuotes, List.length_cons, List.length_append, List.length_nil]
      omega
    rw [htext, settingsBounds?.eq_def]
    simp only [hm, if_true]
    rw [settingsBounds?_inside ht, ih, hlen]
  -- Between parentheses the depth is one more, and behind them it is the same again.
  | @group _ _ t s _ _ iht ihs =>
    have hlen : pos + ('(' :: (t ++ ')' :: s)).length = pos + 1 + t.length + 1 + s.length := by
      simp only [List.length_cons, List.length_append]
      omega
    rw [hlen, List.cons_append, List.append_assoc, List.cons_append, settingsBounds?_open, iht,
      settingsBounds?_close, ihs]

/-! ## Declarations by their parts -/

/-- The name of a declaration: a word, or a text that stands between double quotes. -/
inductive DeclaredName
  | word (w : Text) (hw : IsWord w)
  | quoted (t : Text) (hquote : '"' ∉ t) (hescape : '\\' ∉ t)

namespace DeclaredName

/-- The name as it stands in a declaration. -/
def written : DeclaredName → Text
  | word w _ => w
  | quoted t _ _ => inQuotes '"' t

/-- A name is not written as nothing. -/
theorem written_ne_nil (name : DeclaredName) : name.written ≠ [] := by
  cases name with
  | word w hw => exact hw.ne_nil
  | quoted t => exact List.cons_ne_nil _ _

/-- No blank stands at the ends of a written name. -/
theorem trimmed_written (name : DeclaredName) : Trimmed name.written := by
  cases name with
  | word w hw => exact hw.trimmed
  | quoted t => exact trimmed_inQuotes rfl t

end DeclaredName

/-- A text without double quotes and backslashes is closed by the double quote behind it. -/
theorem closingQuote?_append {t : Text} (hquote : '"' ∉ t) (hescape : '\\' ∉ t) (w : Text) :
    closingQuote? (t ++ '"' :: w) = some (t.length + 1) := by
  -- The search may take two characters at once, but only where the first is a backslash.
  induction t with
  | nil =>
    rw [List.nil_append, closingQuote?.eq_def]
    rfl
  | cons c t ih =>
    obtain ⟨hc, hquote⟩ := not_or.1 (mt List.mem_cons.2 hquote)
    obtain ⟨hd, hescape⟩ := not_or.1 (mt List.mem_cons.2 hescape)
    rw [List.cons_append, closingQuote?.eq_def]
    simp only [Ne.symm hc, Ne.symm hd, if_false]
    rw [ih hquote hescape]
    rfl

/-- **The name of a declaration is cut off** with the blank behind it. -/
theorem DeclaredName.cutName?_written (name : DeclaredName) {rest : Text} (hne : rest ≠ [])
    (hrest : ∀ c ∈ rest.head?, isBlank c = false) :
    cutName? (name.written ++ ' ' :: rest) = some (name.written, name.written.length + 1) := by
  cases name with
  | word w hw => exact hw.cutName?_eq hne hrest
  | quoted t hquote hescape =>
    refine cutName?_of_nameLength (List.cons_ne_nil _ _) ?_ hne hrest
    have htext : inQuotes '"' t ++ ' ' :: rest = '"' :: (t ++ '"' :: ' ' :: rest) := by
      simp [inQuotes]
    rw [DeclaredName.written, htext, nameLength, if_pos rfl, closingQuote?_append hquote hescape]
    simp [inQuotes]

/-- The type of a declaration: a word, with arguments in parentheses and array suffixes. -/
structure DeclaredType where
  word : Text
  isWord : IsWord word
  arguments : Option Text
  /-- The arguments close their quotes and parentheses. -/
  arguments_closed : ∀ a ∈ arguments, Outer (fun _ => True) a
  /-- How many array suffixes there are. -/
  suffixes : Nat

namespace DeclaredType

/-- The array suffixes of a type. -/
def suffixText : Nat → Text
  | 0 => []
  | n + 1 => '[' :: ']' :: suffixText n

/-- The arguments of a type, in parentheses. -/
def argumentText : Option Text → Text
  | none => []
  | some a => '(' :: (a ++ [')'])

/-- The type as it stands in a declaration. -/
def written (type : DeclaredType) : Text :=
  type.word ++ (argumentText type.arguments ++ suffixText type.suffixes)

variable (type : DeclaredType) (pos : Nat) (w : Text)

/-- No blank stands at the ends of the arguments of a type. -/
theorem trimmed_argumentText (arguments : Option Text) : Trimmed (argumentText arguments) := by
  cases arguments with
  | none => exact .nil
  | some a =>
    exact Trimmed.around (a := ['(']) (.singleton (by decide)) (List.cons_ne_nil _ _)
      (.singleton (by decide)) (List.cons_ne_nil _ _) a

/-- No blank stands at the ends of the brackets of an array type. -/
theorem trimmed_suffixText (n : Nat) : Trimmed (suffixText n) := by
  induction n with
  | zero => exact .nil
  | succ n ih =>
    have hsuffix : Trimmed ['[', ']'] :=
      Trimmed.append (a := ['[']) (.singleton (by decide)) (.singleton (by decide))
    exact hsuffix.append ih

/-- No blank stands at the ends of a written type. -/
theorem trimmed_written : Trimmed type.written :=
  type.isWord.trimmed.append ((trimmed_argumentText _).append (trimmed_suffixText _))

/-- A type is not written as nothing. -/
theorem written_ne_nil : type.written ≠ [] := by
  simp [written, type.isWord.ne_nil]

/-- No settings are found in the arguments of a type. -/
theorem settingsBounds?_argumentText {arguments : Option Text}
    (h : ∀ a ∈ arguments, Outer (fun _ => True) a) :
    settingsBounds? none 0 pos (argumentText arguments ++ w)
      = settingsBounds? none 0 (pos + (argumentText arguments).length) w := by
  cases arguments with
  | none => rfl
  | some a =>
    have htext : argumentText (some a) ++ w = '(' :: (a ++ ')' :: w) := by simp [argumentText]
    have hlen : pos + (argumentText (some a)).length = pos + 1 + a.length + 1 := by
      simp only [argumentText, List.length_cons, List.length_append, List.length_nil]
      omega
    rw [htext, hlen, settingsBounds?_open, (h a rfl).settingsBounds?, settingsBounds?_close]

/-- No settings are found in the brackets of an array type. -/
theorem settingsBounds?_suffixText (n : Nat) :
    settingsBounds? none 0 pos (suffixText n ++ w)
      = settingsBounds? none 0 (pos + (suffixText n).length) w := by
  induction n generalizing pos with
  | zero => rfl
  | succ n ih =>
    have hlen : pos + (suffixText (n + 1)).length = pos + 2 + (suffixText n).length := by
      simp only [suffixText, List.length_cons]
      omega
    rw [hlen, suffixText, List.cons_append, List.cons_append, settingsBounds?_suffix, ih]

/-- **A type has no settings list**: the search goes past it. -/
theorem settingsBounds?_written :
    settingsBounds? none 0 pos (type.written ++ w)
      = settingsBounds? none 0 (pos + type.written.length) w := by
  have hword : ∀ c ∈ type.word, isBland c = true := fun c hc =>
    isBland_of_isWordChar (type.isWord.chars c hc)
  rw [written, List.append_assoc, List.append_assoc, settingsBounds?_bland hword,
    settingsBounds?_argumentText _ _ type.arguments_closed, settingsBounds?_suffixText,
    List.length_append, List.length_append, Nat.add_assoc, Nat.add_assoc]

end DeclaredType

/-- A declaration `name type [settings]` by its parts. -/
structure FieldDeclaration where
  name : DeclaredName
  type : DeclaredType
  settings : Option Text
  /-- A settings list is not empty, and closes its quotes and brackets. -/
  settings_closed : ∀ S ∈ settings, S ≠ [] ∧ Bracketed S

namespace FieldDeclaration

/-- The settings list of a declaration, behind a blank. -/
def settingsText : Option Text → Text
  | none => []
  | some S => ' ' :: '[' :: (S ++ [']'])

/-- The declaration as it stands on a line. -/
def written (d : FieldDeclaration) : Text :=
  d.name.written ++ ' ' :: (d.type.written ++ settingsText d.settings)

variable (d : FieldDeclaration)

/-- A declaration is not written as nothing. -/
theorem written_ne_nil : d.written ≠ [] := by
  simp [written]

/-- No blank stands at the ends of a written declaration. -/
theorem trimmed_written : Trimmed d.written := by
  rw [written]
  cases d.settings with
  | none =>
    rw [settingsText, List.append_nil]
    exact d.name.trimmed_written.around d.name.written_ne_nil d.type.trimmed_written
      d.type.written_ne_nil [' ']
  | some S =>
    have htext : d.name.written ++ ' ' :: (d.type.written ++ settingsText (some S))
        = d.name.written ++ ((' ' :: (d.type.written ++ ' ' :: '[' :: S)) ++ [']']) := by
      simp [settingsText]
    rw [htext]
    exact d.name.trimmed_written.around d.name.written_ne_nil (.singleton (by decide))
      (List.cons_ne_nil _ _) _

/-- The name of a declaration is cut off, whatever stands behind the declaration. -/
theorem cutName?_written_append (w : Text) :
    cutName? (d.written ++ w) = some (d.name.written, d.name.written.length + 1) := by
  have htext : d.written ++ w
      = d.name.written ++ ' ' :: (d.type.written ++ (settingsText d.settings ++ w)) := by
    simp [written]
  rw [htext]
  refine d.name.cutName?_written (by simp [d.type.written_ne_nil]) fun c hc => ?_
  rw [List.head?_append, Option.or_of_isSome (by simpa using d.type.written_ne_nil)] at hc
  exact d.type.trimmed_written.head c hc

/-- Without a list none is found. -/
theorem settingsBounds?_type : settingsBounds? none 0 0 d.type.written = none := by
  have h := d.type.settingsBounds?_written 0 []
  rw [List.append_nil] at h
  rw [h, settingsBounds?.eq_def]

/-- **The list of a declaration** closes where it was written to close. -/
theorem settingsBounds?_list {type : DeclaredType} {S : Text} (hS : S ≠ []) (hclosed : Bracketed S)
    (w : Text) :
    settingsBounds? none 0 0 (type.written ++ (settingsText (some S) ++ w))
      = some (.behind (type.written.length + 2) S) := by
  -- An opening bracket with a closing one right behind it belongs to an array type, so the list
  -- must not be empty.
  have hhead : ∀ c ∈ (S ++ ']' :: w).head?, c ≠ ']' := by
    rw [List.head?_append, Option.or_of_isSome (by simpa using hS)]
    exact hclosed.head_ne
  have hblank := settingsBounds?_bland (x := [' ']) (List.forall_mem_singleton.2 (by decide))
    (0 + type.written.length) ('[' :: (S ++ ']' :: w))
  have hclose : matchingBracket none 1 (type.written.length + 2) (S ++ ']' :: w)
      = type.written.length + 2 + S.length := by
    rw [hclosed.matchingBracket 0]
    rfl
  -- The type is passed, then the blank, and the bracket opens the list.
  calc settingsBounds? none 0 0 (type.written ++ (settingsText (some S) ++ w))
      = settingsBounds? none 0 0 (type.written ++ ([' '] ++ '[' :: (S ++ ']' :: w))) := by
        simp [settingsText]
    _ = settingsBounds? none 0 (type.written.length + 1) ('[' :: (S ++ ']' :: w)) := by
        rw [type.settingsBounds?_written, hblank, Nat.zero_add]
        rfl
    _ = some (.behind (type.written.length + 2) S) := by
        rw [settingsBounds?_bracket (by simp) hhead, hclose, Span.behind]

/-- **The end of a declaration**: one with a list ends behind the list, when something stands there,
and the last declaration of a line is not cut. -/
theorem declarationEnd?_written (w : Text) (h : d.settings.isSome ∨ w = []) :
    declarationEnd? (d.written ++ w) = if w = [] then none else some d.written.length := by
  have hdrop : (d.written ++ w).drop (d.name.written.length + 1)
      = d.type.written ++ (settingsText d.settings ++ w) := by
    rw [← List.drop_drop, written, List.append_assoc, List.drop_left]
    simp
  rw [declarationEnd?, d.cutName?_written_append]
  simp only [hdrop]
  have hclosed := d.settings_closed
  -- With a list the end is behind its bracket; the declaration is whole when nothing stands there.
  cases hS : d.settings with
  | none =>
    obtain rfl : w = [] := h.resolve_left (by simp [hS])
    simp [settingsText, d.settingsBounds?_type]
  | some S =>
    obtain ⟨hne, hclosed⟩ := hclosed S hS
    have hlen : d.written.length
        = d.name.written.length + 1 + (d.type.written.length + 2 + S.length + 1) := by
      simp only [written, hS, settingsText, List.length_append, List.length_cons, List.length_nil]
      omega
    rw [settingsBounds?_list hne hclosed]
    simp only [Span.behind, List.length_append, hlen]
    by_cases hw : w = []
    · rw [hw, if_pos rfl, if_pos (by simp)]
    · have hpos := List.length_pos_iff.2 hw
      rw [if_neg hw, if_neg (by omega), Nat.add_assoc]

/-! ## The declarations of a line -/

/-- The last declaration of a line is not cut. -/
theorem splitTrimmed_written : splitTrimmed d.written = [d.written] := by
  have hend := d.declarationEnd?_written [] (.inr rfl)
  rw [List.append_nil, if_pos rfl] at hend
  rw [splitTrimmed, dif_neg d.written_ne_nil]
  split
  next => rfl
  next heq => cases hend.symm.trans heq

/-- **A declaration with a list is cut off**, and what stands behind the blank is split as
before. -/
theorem splitTrimmed_written_append (hlist : d.settings.isSome) {w : Text} (hw : Trimmed w) :
    splitTrimmed (d.written ++ ' ' :: w) = d.written :: splitTrimmed w := by
  have hend := d.declarationEnd?_written (' ' :: w) (.inl hlist)
  rw [if_neg (List.cons_ne_nil _ _)] at hend
  have htrim : Text.trim (' ' :: w) = w := by
    have hblank : AllBlank [' '] := List.forall_mem_singleton.2 (by decide)
    -- The blank between two declarations is trimmed.
    have h := Text.trim_eq hblank hw (fun _ h => absurd h List.not_mem_nil)
    rwa [List.append_nil] at h
  rw [splitTrimmed, dif_neg (by simp)]
  split
  next heq => cases hend.symm.trans heq
  -- The declaration ends where it was written to end, which is all that the scan looks for.
  next n heq =>
    obtain rfl : d.written.length = n := Option.some.inj (hend.symm.trans heq)
    rw [List.take_left, List.drop_left, Text.trimRight_eq_self d.trimmed_written.last, htrim]

/-- A line of declarations, with blanks between them. -/
def line (declarations : List FieldDeclaration) : Text := Text.join [' '] (declarations.map written)

/-- Two neighbouring declarations on a line have a blank between them. -/
theorem line_cons (d next : FieldDeclaration) (rest : List FieldDeclaration) :
    line (d :: next :: rest) = d.written ++ ' ' :: line (next :: rest) := by
  rw [line, line, List.map_cons, List.map_cons, Text.join_cons_cons, List.append_assoc]
  rfl

/-- A line with a declaration is not empty. -/
theorem line_ne_nil {declarations : List FieldDeclaration} (h : declarations ≠ []) :
    line declarations ≠ [] := by
  obtain ⟨d, rest, rfl⟩ := List.exists_cons_of_ne_nil h
  cases rest with
  | nil => exact d.written_ne_nil
  | cons next rest =>
    rw [line_cons]
    exact List.append_ne_nil_of_right_ne_nil _ (List.cons_ne_nil _ _)

/-- No blank stands at the ends of a line of declarations. -/
theorem trimmed_line (declarations : List FieldDeclaration) : Trimmed (line declarations) := by
  induction declarations with
  | nil => exact .nil
  | cons d rest ih =>
    cases rest with
    | nil => exact d.trimmed_written
    | cons next rest =>
      rw [line_cons]
      exact d.trimmed_written.around d.written_ne_nil ih (line_ne_nil (List.cons_ne_nil _ _)) [' ']

/-- **A line is split into the declarations that were written on it**, when all but the last have a
settings list. -/
theorem splitTrimmed_line {declarations : List FieldDeclaration}
    (h : ∀ d ∈ declarations.dropLast, d.settings.isSome) :
    splitTrimmed (line declarations) = declarations.map written := by
  induction declarations with
  | nil =>
    rw [splitTrimmed]
    exact dif_pos rfl
  -- All but the last one have lists, so the first one is cut off, and the rest is a line again.
  | cons d rest ih =>
    cases rest with
    | nil => exact d.splitTrimmed_written
    | cons next rest =>
      obtain ⟨hd, hrest⟩ := List.forall_mem_cons.1 h
      rw [line_cons, d.splitTrimmed_written_append hd (trimmed_line _), ih hrest]
      rfl

end FieldDeclaration

/-- **The declarations of a line.** The parts of any text stand in it in order, do not overlap and
leave only blanks; and a line that joins declarations, all but the last with a settings list, gives
exactly these. -/
theorem splitDeclarations_separates :
    (∀ s, CoveredBy s (splitDeclarations s)) ∧
      ∀ declarations : List FieldDeclaration,
        (∀ d ∈ declarations.dropLast, d.settings.isSome) →
          splitDeclarations (FieldDeclaration.line declarations)
            = declarations.map FieldDeclaration.written := by
  refine ⟨fun s => (coveredBy_splitTrimmed (Text.trimmed_trim s)).of_trim, fun declarations h => ?_⟩
  rw [splitDeclarations, Text.trim_eq_self (FieldDeclaration.trimmed_line _)]
  exact FieldDeclaration.splitTrimmed_line h

/-- Three declarations with brackets in the name, in the type, in a literal and in a setting. -/
def bracketDeclarations : List FieldDeclaration :=
  [{ name := .quoted "q [x".toList (by decide) (by decide)
     type :=
      { word := "t".toList
        isWord := ⟨by decide, List.all_eq_true.1 (by decide)⟩
        arguments := some "5, '['".toList
        arguments_closed := by
          rintro a ⟨⟩
          exact (Outer.of_forall (s := "5, ".toList) (by simp [isQuoteChar])).append
            (Outer.inQuotes (m := '\'') (t := ['[']) rfl (by decide))
        suffixes := 2 }
     settings := some "note: 'a]', x [1]".toList
     settings_closed := by
      rintro S ⟨⟩
      exact ⟨by decide, .plain_append (x := "note: ".toList) (by simp [isQuoteChar])
        (.quoted (m := '\'') (t := "a]".toList) rfl (by decide)
          (.plain_append (x := ", x ".toList) (by simp [isQuoteChar])
            (.list (t := ['1']) (.plain rfl (by decide) (by decide) .nil) .nil)))⟩ },
   { name := .word "b".toList ⟨by decide, List.all_eq_true.1 (by decide)⟩
     type := ⟨"u".toList, ⟨by decide, List.all_eq_true.1 (by decide)⟩, none, by simp, 1⟩
     settings := some ['z']
     settings_closed := by
      rintro S ⟨⟩
      exact ⟨by decide, .plain rfl (by decide) (by decide) .nil⟩ },
   { name := .quoted [] (by simp) (by simp)
     type := ⟨"v".toList, ⟨by decide, List.all_eq_true.1 (by decide)⟩, none, by simp, 1⟩
     settings := none
     settings_closed := by simp }]

/-- They are found on their line. -/
theorem splitDeclarations_separates_brackets :
    (∀ d ∈ bracketDeclarations.dropLast, d.settings.isSome) ∧
      splitDeclarations "\"q [x\" t(5, '[')[][] [note: 'a]', x [1]] b u[] [z] \"\" v[]".toList
        = ["\"q [x\" t(5, '[')[][] [note: 'a]', x [1]]".toList, "b u[] [z]".toList,
            "\"\" v[]".toList] := by
  have hlists : ∀ d ∈ bracketDeclarations.dropLast, d.settings.isSome := by
    simp [bracketDeclarations]
  have hline : FieldDeclaration.line bracketDeclarations
      = "\"q [x\" t(5, '[')[][] [note: 'a]', x [1]] b u[] [z] \"\" v[]".toList := by decide +kernel
  have hparts : bracketDeclarations.map FieldDeclaration.written
      = ["\"q [x\" t(5, '[')[][] [note: 'a]', x [1]]".toList, "b u[] [z]".toList,
          "\"\" v[]".toList] := by decide +kernel
  refine ⟨hlists, ?_⟩
  rw [← hline, ← hparts]
  exact splitDeclarations_separates.2 bracketDeclarations hlists

end SchemaDiagram

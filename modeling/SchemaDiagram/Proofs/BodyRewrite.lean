import SchemaDiagram.Proofs.NewLines

/-! # Rewriting a body

A change replaces the values of some properties of a body and writes new properties at its end. All
replacements are woven into the body at once. They are read as if they had been made one after the
other, the last one first: each leaves the values before it where they stood.

* **`Revised`** — a body after the replacements behind some of its properties.
* **`Revised.replace`** — one more replacement, before those.
* **`revised_appended`** — new lines at the end come first.
* **`revised_weave`** — a body with all replacements. -/

namespace SchemaDiagram

/-! ## Where replacements stand -/

/-- A place before all replacements is before the first one. -/
theorem le_firstEdit_of {n stop : Nat} {edits : List (Span × Text)} (h : ∀ e ∈ edits, n ≤ e.1.start)
    (hstop : n ≤ stop) : n ≤ firstEdit stop edits := by
  cases edits with
  | nil => exact hstop
  | cons e edits => exact h e (List.mem_cons_self ..)

/-- **A replacement before the others**, of a stretch that they left as it was. -/
theorem weave_before {text A V R : Text} {stop : Nat} {span : Span} {edits : List (Span × Text)}
    (h : weave text 0 stop edits = A ++ (V ++ R)) (hspan : span = .behind A.length V)
    (hfirst : span.stop ≤ firstEdit stop edits) (hstop : span.stop ≤ text.length) (r : Text) :
    weave text 0 stop ((span, r) :: edits) = A ++ (r ++ R) := by
  subst hspan
  -- The stretch up to the end of the span is left as it was, so both ways to cut it are the same.
  have hlength : (text.slice 0 (A ++ V).length).length = (A ++ V).length := by
    have hle : (A ++ V).length ≤ text.length := by simpa [Span.behind] using hstop
    rw [Text.slice, List.drop_zero, Nat.sub_zero, List.length_take, Nat.min_eq_left hle]
  rw [weave_from text (Nat.zero_le _) hfirst, ← List.append_assoc] at h
  have hstop' : (Span.behind A.length V).stop = (A ++ V).length := by simp [Span.behind]
  rw [hstop'] at h
  obtain ⟨hahead, hbehind⟩ := List.append_inj h hlength
  -- So the text starts with what stands ahead of the span.
  have htake : text.slice 0 A.length = A := by
    have htext : text.take (A ++ V).length = A ++ V := by simpa [Text.slice] using hahead
    rw [Text.slice, List.drop_zero, Nat.sub_zero]
    have := congrArg (List.take A.length) htext
    rwa [List.take_take, List.take_left, Nat.min_eq_left (by simp)] at this
  rw [weave, hstop', hbehind]
  show text.slice 0 A.length ++ r ++ R = _
  rw [htake, List.append_assoc]

/-! ## Where the values of a body stand -/

/-- The values of a body stand inside it, one behind the other. -/
theorem values_lie (X : Text) :
    (∀ p ∈ (bodyContents X).properties,
      p.valueSpan.start ≤ p.valueSpan.stop ∧ p.valueSpan.stop ≤ X.length) ∧
      propertiesApart (bodyContents X).properties := by
  have hapart := apart_tokensFrom 0 1 (clean X)
  obtain ⟨htold, horder⟩ := properties_told (clean X) [] hapart
  refine ⟨fun p hp => ?_, horder⟩
  obtain ⟨colon, values, hp⟩ := htold p hp
  obtain ⟨-, hle, last, hlast, hstop⟩ := bounds_valueSpanOf (hapart.sublist hp.sub)
  have hbounds := bounds_of_mem_tokensFrom (hp.sub.subset hlast)
  rw [Nat.zero_add, length_clean] at hbounds
  rw [hp.span]
  omega

/-- Blanks at the end of a body are in no value. -/
theorem valueSpans_trimRight {X post : Text} (hclosed : HasClosedLiterals X)
    (hjoint : Joint X ('\x7d' :: post)) (hb : IsBalanced X) :
    (bodyContents X).valueSpans = (bodyContents (Text.trimRight X)).valueSpans := by
  obtain ⟨front, ends, htrail⟩ := exists_trail hjoint hclosed
  have hfront : balance [] front = some [] := by
    rw [IsBalanced, tokenize, htrail.tokens] at hb
    exact balance_front hb (balance_flat (fun t ht => .inr (htrail.ends t ht)) [])
  obtain ⟨doc, hold⟩ := contentsFrom_append hfront []
  have hspans := (hold (clean X) ends fun t ht => htrail.ends t (List.mem_of_mem_head? ht)).2
  have hempty : Contents.empty.valueSpans = [] := rfl
  rw [contentsFrom_newlines htrail.ends, hempty, List.append_nil] at hspans
  rw [bodyContents, bodyContents, tokenize, tokenize, htrail.tokens, htrail.kept, hspans,
    valueSpans_clip (clean (Text.trimRight X)) (clean X)]

/-! ## Replacements one after the other -/

/-- **A body after the replacements behind some of its properties**: it says the entries behind
them, and the values of those properties stand where they stood. -/
structure Revised (X post : Text) (front : List Property) (entries : List (Text × Text))
    (Y : Text) :
    Prop where
  /-- It is balanced. -/
  balanced : IsBalanced Y
  /-- It ends at the closing brace. -/
  joint : Joint Y ('\x7d' :: post)
  /-- It says what the body said, but for the entries. -/
  view : bodyView Y
    = { bodyView X with properties := front.map Property.content ++ entries }
  /-- The values of the other properties stand where they stood. -/
  spans : ∃ spans, (bodyContents Y).valueSpans = front.map (·.valueSpan) ++ spans

namespace Revised

variable {X post Y : Text} {front : List Property} {p : Property} {entries : List (Text × Text)}

/-- A property that is not replaced is said as it is. -/
theorem keep (h : Revised X post (front ++ [p]) entries Y) :
    Revised X post front (p.content :: entries) Y := by
  obtain ⟨spans, hspans⟩ := h.spans
  refine ⟨h.balanced, h.joint, ?_, p.valueSpan :: spans, ?_⟩
  · rw [h.view, List.map_append, List.append_assoc]
    rfl
  · rw [hspans, List.map_append, List.append_assoc]
    rfl

/-- The property whose value is to be replaced next. -/
theorem exists_property (h : Revised X post (front ++ [p]) entries Y) :
    ∃ front' q back, (bodyContents Y).properties = front' ++ q :: back ∧
      front'.map Property.content = front.map Property.content ∧ q.key = p.key ∧
      back.map Property.content = entries ∧ front'.map (·.valueSpan) = front.map (·.valueSpan) ∧
      q.valueSpan = p.valueSpan := by
  obtain ⟨spans, hspans⟩ := h.spans
  -- The properties are told by their contents in the view and by their spans, in the same order.
  have hproperties : (bodyContents Y).properties.map Property.content
      = front.map Property.content ++ p.content :: entries := by
    have hview := congrArg ContentsView.properties h.view
    rw [bodyView, Contents.view, List.map_append, List.append_assoc] at hview
    exact hview
  rw [Contents.valueSpans, List.map_append, List.append_assoc] at hspans
  -- The first ones are those ahead, and the next one is the property that is looked for.
  obtain ⟨front', tail, heq, hfront, htail⟩ := List.map_eq_append_iff.1 hproperties
  obtain ⟨q, back, rfl, hq, hback⟩ := List.map_eq_cons_iff.1 htail
  have hlength := congrArg List.length hfront
  rw [heq, List.map_append] at hspans
  obtain ⟨hfrontSpans, hbackSpans⟩ := List.append_inj hspans (by simpa using hlength)
  exact ⟨front', q, back, heq, hfront, congrArg Prod.fst hq, hback, hfrontSpans,
    (List.cons.inj hbackSpans).1⟩

/-- **One more replacement**: a written value stands in place of the value of the property. -/
theorem replace {edits : List (Span × Text)} {pad v : Text}
    (h : Revised X post (front ++ [p]) entries (weave X 0 X.length edits)) (hpad : InlineBlank pad)
    (hv : IsWritten v) (hfirst : p.valueSpan.stop ≤ firstEdit X.length edits)
    (hstop : p.valueSpan.stop ≤ X.length) :
    Revised X post front ((p.key, v) :: entries)
      (weave X 0 X.length ((p.valueSpan, pad ++ v) :: edits)) := by
  obtain ⟨front', q, back, heq, hfront, hkey, hback, hspans, hq⟩ := h.exists_property
  obtain ⟨A, V, R, hY, hspan, hsealed, hjoint, hloose, hrevalue⟩ := exists_revalued h.balanced heq
  obtain ⟨hbalanced, hview, hnewSpans⟩ := hrevalue pad v hpad hv
  have hedge := h.joint
  rw [hY, ← List.append_assoc] at hedge
  -- No literal goes on in what follows the value, be it the closing brace.
  have hquote : ∀ c ∈ (R ++ '\x7d' :: post).head?, isQuoteChar c = false := by
    cases R with
    | nil =>
      intro c hc
      obtain rfl := Option.some.inj hc
      decide
    | cons c R => exact hloose.quote
  rw [weave_before hY (hq ▸ hspan) hfirst hstop]
  refine ⟨hbalanced, ?_, ?_, ?_⟩
  · have hahead : Joint (A ++ pad) (v ++ (R ++ '\x7d' :: post)) :=
      hsealed.solid.append (Sealed.of_blanks hpad.blank).solid _
    have hvalue := Joint.trans hahead (hv.joint _ hquote)
    have hrest := Joint.trans hvalue (Joint.split hjoint hedge).2
    simpa using hrest
  · rw [hview, h.view, hfront, hkey, hback]
  · rw [← hspans]
    exact hnewSpans

end Revised

/-! ## New lines first -/

section

variable {X post indent : Text} {entries : OrderedMap Text}

/-- The new lines at the end of a body as a replacement: the closing brace stays on its own line, or
gets one. -/
def appendEdit (X indent : Text) (entries : OrderedMap Text) : List (Span × Text) :=
  let kept := (Text.trimRight X).length
  let lineEnd : Text := if (X.slice kept X.length).contains '\n' then [] else ['\n']
  if entries.isEmpty then [] else [(⟨kept, kept⟩, newLines indent entries ++ lineEnd)]

/-- **New lines at the end of a body** are its last replacement. -/
theorem revised_appended (hb : IsBalanced X) (hclosed : HasClosedLiterals X)
    (hjoint : Joint X ('\x7d' :: post)) (hindent : InlineBlank indent)
    (hentries : ∀ e ∈ entries, WrittenEntry e) :
    Revised X post (bodyContents X).properties entries
      (weave X 0 X.length (appendEdit X indent entries)) := by
  cases hnil : entries.isEmpty with
  | true =>
    obtain rfl := List.isEmpty_iff.1 hnil
    -- Without entries nothing is appended.
    have hweave : weave X 0 X.length (appendEdit X indent []) = X := by
      simp [appendEdit, weave, Text.slice]
    rw [hweave]
    refine ⟨hb, hjoint, ?_, [], (List.append_nil _).symm⟩
    rw [List.append_nil]
    rfl
  | false =>
    obtain ⟨blanks, heq, hblank⟩ := Text.exists_eq_trimRight_append X
    have hdrop : X.slice (Text.trimRight X).length X.length = blanks := by
      rw [Text.slice, List.take_of_length_le (by simp)]
      exact (congrArg (List.drop _) heq).trans List.drop_left
    have htake : X.slice 0 (Text.trimRight X).length = Text.trimRight X := by
      rw [Text.slice, List.drop_zero, Nat.sub_zero]
      exact (congrArg (List.take _) heq).trans List.take_left
    -- A line end goes in front of the blanks unless there is one among them.
    generalize hlineEnd : (if blanks.contains '\n' then ([] : Text) else ['\n']) = lineEnd
    have hline : '\n' ∈ lineEnd ++ blanks ∧ AllBlank (lineEnd ++ blanks) := by
      rw [← hlineEnd]
      split
      next hmem => exact ⟨by simpa using hmem, hblank⟩
      next => exact ⟨by simp, List.forall_mem_cons.2 ⟨by decide, hblank⟩⟩
    -- The replacement takes the place of the blanks at the end.
    have hweave : weave X 0 X.length (appendEdit X indent entries)
        = Text.trimRight X ++ (newLines indent entries ++ (lineEnd ++ blanks)) := by
      rw [appendEdit, hnil, hdrop, hlineEnd, if_neg Bool.false_ne_true, weave, weave, htake, hdrop,
        List.append_assoc, List.append_assoc]
    obtain ⟨hbalanced, hsolid, hview, hspans⟩ := exists_extended hb hclosed hjoint hindent hentries
      (fun hnone => by simp [hnone] at hnil) hline.2 (List.ne_nil_of_mem hline.1) hweave
    exact ⟨hbalanced, hsolid _, hview, hspans⟩

/-! ## All replacements -/

/-- The entry of a change with the key, in any case. -/
def entryWithKey? (values : OrderedMap Text) (key : Text) : Option (Text × Text) :=
  values.find? fun entry => entry.1.lower = key.lower

/-- How the value of a property at a span is replaced, if it is. -/
def spanEdit? (values : OrderedMap Text) (key : Text) (span : Span) : Option (Span × Text) :=
  (entryWithKey? values key).map fun entry =>
    (span, if span.length = 0 then ' ' :: entry.2 else entry.2)

/-- The replacements of some properties of a body. -/
def valueEdits (values : OrderedMap Text) (properties : List Property) : List (Span × Text) :=
  properties.filterMap fun p => spanEdit? values p.key p.valueSpan

/-- An entry of a body with the value written into it. -/
def rewriteEntry (values : OrderedMap Text) (e : Text × Text) : Text × Text :=
  (e.1, ((entryWithKey? values e.1).map (·.2)).getD e.2)

/-- **A body with all replacements** says what it said with the values written into it, and then the
new entries. -/
theorem revised_weave {values : OrderedMap Text} (hb : IsBalanced X) (hclosed : HasClosedLiterals X)
    (hjoint : Joint X ('\x7d' :: post)) (hindent : InlineBlank indent)
    (hvalues : ∀ e ∈ values, WrittenEntry e) (hentries : ∀ e ∈ entries, WrittenEntry e) :
    Revised X post []
      ((bodyContents X).properties.map (rewriteEntry values ∘ Property.content) ++ entries)
      (weave X 0 X.length
        (valueEdits values (bodyContents X).properties ++ appendEdit X indent entries)) := by
  obtain ⟨hlie, hapart⟩ := values_lie X
  have hkept : ∀ p ∈ (bodyContents X).properties,
      p.valueSpan.stop ≤ (Text.trimRight X).length := by
    intro p hp
    have hspan : p.valueSpan ∈ (bodyContents (Text.trimRight X)).valueSpans := by
      rw [← valueSpans_trimRight hclosed hjoint hb]
      exact List.mem_map_of_mem hp
    obtain ⟨q, hq, hqspan⟩ := List.mem_map.1 hspan
    rw [← hqspan]
    exact ((values_lie _).1 q hq).2
  -- The replacements are made from the last property to the first.
  suffices hrun : ∀ (done front : List Property), (bodyContents X).properties = front ++ done →
      Revised X post front (done.map (rewriteEntry values ∘ Property.content) ++ entries)
        (weave X 0 X.length (valueEdits values done ++ appendEdit X indent entries)) from
    hrun _ [] rfl
  intro done
  induction done with
  | nil =>
    intro front heq
    rw [List.append_nil] at heq
    rw [← heq]
    exact revised_appended hb hclosed hjoint hindent hentries
  | cons p done ih =>
    intro front heq
    have hrest := ih (front ++ [p]) (by rw [heq, List.append_assoc]; rfl)
    rw [valueEdits, List.filterMap_cons, List.map_cons, List.cons_append]
    cases hentry : entryWithKey? values p.key with
    | none =>
      have hkeep : (rewriteEntry values ∘ Property.content) p = p.content := by
        simp [rewriteEntry, Property.content, hentry]
      rw [spanEdit?, hentry, hkeep]
      exact hrest.keep
    | some entry =>
      have hnew : (rewriteEntry values ∘ Property.content) p = (p.key, entry.2) := by
        simp [rewriteEntry, Property.content, hentry]
      have hp : p ∈ (bodyContents X).properties := by simp [heq]
      have hwritten := (hvalues entry (List.mem_of_find?_eq_some hentry)).value
      have hlater : ∀ e ∈ valueEdits values done ++ appendEdit X indent entries,
          p.valueSpan.stop ≤ e.1.start := by
        rw [heq] at hapart
        have happ := (List.pairwise_cons.1 (List.pairwise_append.1 hapart).2.1).1
        refine List.forall_mem_append.2 ⟨fun e he => ?_, fun e he => ?_⟩
        · obtain ⟨q, hq, hedit⟩ := List.mem_filterMap.1 he
          obtain ⟨-, -, rfl⟩ := Option.map_eq_some_iff.1 hedit
          exact happ q hq
        · simp only [appendEdit] at he
          split at he
          next => cases he
          next =>
            rw [List.mem_singleton.1 he]
            exact hkept p hp
      have hfirst := le_firstEdit_of hlater (hlie p hp).2
      rw [spanEdit?, hentry, hnew]
      dsimp only [Option.map_some]
      have hspace : InlineBlank [' '] := ⟨allBlank_space, by decide⟩
      split
      next => exact hrest.replace hspace hwritten hfirst (hlie p hp).2
      next => exact hrest.replace .nil hwritten hfirst (hlie p hp).2

end

end SchemaDiagram

import SchemaDiagram.Proofs.Balance
import SchemaDiagram.Proofs.Extent

/-! # The place of a property

A property of a balanced body is read in one step. The statements before it say the same whatever
property stands in its place, and so do those behind it.

* **`ContentsView.append`** — what some statements say, and then what others say.
* **`valueSpans_map`** — where the values stand when the tokens stand elsewhere.
* **`exists_propertyPlace`** — every property of a balanced body has its place. -/

namespace SchemaDiagram

/-! ## Contents one behind the other -/

/-- What some contents say, and then what others say. -/
def ContentsView.append (a b : ContentsView) : ContentsView :=
  ⟨a.children ++ b.children, a.lines ++ b.lines, a.properties ++ b.properties⟩

instance : Append ContentsView := ⟨ContentsView.append⟩

namespace ContentsView

/-- Two views one after the other show the children of both. -/
@[simp] theorem children_append (a b : ContentsView) :
    (a ++ b).children = a.children ++ b.children := rfl

/-- Two views one after the other show the lines of both. -/
@[simp] theorem lines_append (a b : ContentsView) : (a ++ b).lines = a.lines ++ b.lines := rfl

/-- Two views one after the other show the properties of both. -/
@[simp] theorem properties_append (a b : ContentsView) :
    (a ++ b).properties = a.properties ++ b.properties := rfl

/-- Views may be put together in any grouping. -/
theorem append_assoc (a b c : ContentsView) : a ++ b ++ c = a ++ (b ++ c) := by
  show ContentsView.mk _ _ _ = ContentsView.mk _ _ _
  simp

/-- Nothing said. -/
def empty : ContentsView := ⟨[], [], []⟩

@[simp] theorem empty_append (a : ContentsView) : empty ++ a = a := rfl

@[simp] theorem append_empty (a : ContentsView) : a ++ empty = a := by
  show ContentsView.mk _ _ _ = a
  simp [empty]

end ContentsView

/-- What a step finds says something of its own. -/
def Item.view (s : Text) (tl : Bool) (doc : List Text) (item : Item) : ContentsView :=
  (item.add s tl doc .empty).view s

/-- What a step finds is said before what follows. -/
theorem Item.add_view_append (s : Text) (tl : Bool) (doc : List Text) (item : Item) (c : Contents) :
    (item.add s tl doc c).view s = item.view s tl doc ++ c.view s := by
  cases item with
  | nothing => rfl
  | block => rfl
  | line head others =>
    simp only [view, add, addStatement]
    split
    next => split <;> rfl
    next => split <;> rfl

/-- What contents say is told step by step. -/
theorem Step.view {tl : Bool} {doc doc' : List Text} {tokens rest : List Token} {item : Item}
    (h : Step tl doc tokens item doc' rest) (s : Text) :
    (contentsFrom s tl doc tokens).view s
      = item.view s tl doc ++ (contentsFrom s tl doc' rest).view s := by
  obtain ⟨problems, hcontents⟩ := contentsFrom_of_step h s
  rw [hcontents, Contents.view_report, Item.add_view_append]

/-- What a step finds says the same in another text, when the texts between its tokens are the
same. -/
theorem Step.view_alike {s s' : Text} {tl : Bool} {doc doc' : List Text} {tokens rest : List Token}
    {item : Item} (h : Step tl doc tokens item doc' rest) (halike : Alike s s' id id item.tokens) :
    item.view s' tl doc = item.view s tl doc := by
  have hempty : Contents.empty.view s = Contents.empty.view s' := rfl
  have hview := Item.add_view halike h.bare (fun head header brace body close hitem =>
    contentsFrom_view (halike.mono fun u hu => by rw [hitem]; simp [Item.tokens, hu]) false [])
    hempty tl doc
  rw [Item.map_id] at hview
  exact hview.symm

/-! ## Where values stand -/

/-- Where the values of contents stand. -/
def Contents.valueSpans (c : Contents) : List Span := c.properties.map (·.valueSpan)

/-- Where the value of a property stands is told by its tokens. -/
theorem readBodyLine_valueSpan (s s' : Text) (doc : List Text) (t : Token) (others : List Token) :
    (readBodyLine s doc t others).map (fun _ => ()) Property.valueSpan
      = (readBodyLine s' doc t others).map (fun _ => ()) Property.valueSpan := by
  unfold readBodyLine
  dsimp only
  split
  next => split <;> rfl
  next => rfl

/-- Where the values of a step stand does not depend on the text. -/
theorem Item.valueSpans_add (s s' : Text) (doc : List Text) (item : Item) (c : Contents) :
    (item.add s false doc c).valueSpans
      = (item.add s' false doc .empty).valueSpans ++ c.valueSpans := by
  cases item with
  | nothing => rfl
  | block => rfl
  | line head others =>
    have hspan := readBodyLine_valueSpan s s' doc head others
    simp only [add, addStatement, Bool.false_eq_true, if_false]
    generalize readBodyLine s doc head others = r at hspan
    generalize readBodyLine s' doc head others = r' at hspan
    cases r <;> cases r' <;> simp_all [Contents.valueSpans, Contents.addLine, Contents.addProperty,
      Contents.empty]

/-- Where the values of contents stand is told step by step. -/
theorem Step.valueSpans {doc doc' : List Text} {tokens rest : List Token} {item : Item}
    (h : Step false doc tokens item doc' rest) (s s' : Text) :
    (contentsFrom s false doc tokens).valueSpans
      = (item.add s' false doc .empty).valueSpans
        ++ (contentsFrom s false doc' rest).valueSpans := by
  obtain ⟨problems, hcontents⟩ := contentsFrom_of_step h s
  rw [hcontents, ← Item.valueSpans_add]
  rfl

/-- **The values of contents stand elsewhere when the tokens do**, as those of every line do. -/
theorem valueSpans_map {f : Token → Token} (hf : Keeps f) {g : Span → Span} {s s' : Text}
    (hread : ∀ (doc : List Text) (t : Token), t.kind ≠ .doc → ∀ others : List Token,
      (readBodyLine s doc (f t) (others.map f)).map (fun _ => ()) Property.valueSpan
        = (readBodyLine s' doc t others).map (fun _ => ()) (g ∘ Property.valueSpan))
    (doc : List Text) (tokens : List Token) :
    (contentsFrom s false doc (tokens.map f)).valueSpans
      = (contentsFrom s' false doc tokens).valueSpans.map g := by
  induction doc, tokens using steps_induction false with
  | nil doc => rw [List.map_nil, contentsFrom_nil, contentsFrom_nil]; rfl
  | step doc t others item doc' rest hstep ih =>
    -- One item has one value at most, and only a line has one.
    have hitem : ((item.map f).add s false doc .empty).valueSpans
        = (item.add s' false doc .empty).valueSpans.map g := by
      cases item with
      | nothing => rfl
      | block => rfl
      | line head line =>
        have hspan := hread doc head hstep.bare line
        simp only [Item.map, Item.add, addStatement, Bool.false_eq_true, if_false]
        generalize readBodyLine s doc (f head) (line.map f) = r at hspan
        generalize readBodyLine s' doc head line = r' at hspan
        cases r <;> cases r' <;> simp_all [Contents.valueSpans, Contents.addLine,
          Contents.addProperty, Contents.empty]
    rw [(hstep.map hf).valueSpans s s, hstep.valueSpans s' s', hitem,
      ih, List.map_append]

/-- Where the value of a moved property stands. -/
theorem readBodyLine_move (s s' : Text) (n m : Nat) (doc : List Text) (t : Token)
    (others : List Token) :
    (readBodyLine s doc (t.move n m) (others.map (Token.move n m))).map (fun _ => ())
        Property.valueSpan
      = (readBodyLine s' doc t others).map (fun _ => ()) ((·.shift n) ∘ Property.valueSpan) := by
  unfold readBodyLine
  rw [(Keeps.move n m).filter_kind (· != .doc)]
  dsimp only
  cases hbody : others.filter (·.kind != .doc) with
  | nil => cases ht : t.kind <;> simp [ht]
  | cons second values =>
    rw [List.map_cons]
    cases ht : t.kind <;> simp only [Token.move_kind, ht, Sum.map_inl]
    -- Without a colon the line is no property.
    by_cases hcolon : second.kind = .colon
    · simp only [hcolon, if_true, Sum.map_inr]
      cases values with
      | nil => rfl
      | cons value values =>
        rw [← List.map_cons, List.getLast?_map]
        cases (second :: value :: values).getLast? <;> rfl
    · simp only [hcolon, if_false, Sum.map_inl]

/-- The values of contents move with the tokens. -/
theorem valueSpans_move (s s' : Text) (n m : Nat) (doc : List Text) (tokens : List Token) :
    (contentsFrom s false doc (tokens.map (Token.move n m))).valueSpans
      = (contentsFrom s' false doc tokens).valueSpans.map (·.shift n) :=
  valueSpans_map (Keeps.move n m) (fun doc t _ others =>
    readBodyLine_move s s' n m doc t others) doc
    tokens

/-- The tokens of a line are those that its step takes. -/
theorem Step.line_tokens {tl : Bool} {doc doc' : List Text} {tokens rest others : List Token}
    {head : Token} (h : Step tl doc tokens (.line head others) doc' rest) :
    tokens = head :: (others ++ rest) ∧ doc' = [] := by
  cases h with
  | @line _ behind segment _ u hstart hscan =>
    have happ := scanLine_append tl (openedBy head) behind
    rw [hscan] at happ
    exact ⟨congrArg (head :: ·) happ.symm, rfl⟩

/-! ## The place of a property -/

/-- **The place of a property in a body**: the tokens before it, the doc comments that wait for it,
its first token and the others, and the tokens behind it. -/
structure PropertyPlace where
  /-- The tokens before the property. -/
  before : List Token
  /-- The doc comments that wait for it. -/
  doc : List Text
  /-- Its first token. -/
  head : Token
  /-- Its other tokens. -/
  others : List Token
  /-- The tokens behind it. -/
  rest : List Token

namespace PropertyPlace

/-- The tokens from the first one of the property on. -/
def own (w : PropertyPlace) : List Token := w.head :: (w.others ++ w.rest)

/-- All tokens. -/
def tokens (w : PropertyPlace) : List Token := w.before ++ w.own

/-- The property is read at its place, and the tokens around it are balanced. -/
structure Valid (w : PropertyPlace) : Prop where
  /-- It is read in one step. -/
  step : Step false w.doc w.own (.line w.head w.others) [] w.rest
  /-- What stands before it is balanced. -/
  before : balance [] w.before = some []
  /-- It is balanced with what follows. -/
  own : balance [] w.own = some []
  /-- What follows is balanced. -/
  rest : balance [] w.rest = some []

end PropertyPlace

/-- The properties that a step finds come before the others: what they say and where they stand. -/
theorem Item.properties_split {s : Text} {doc : List Text} {item : Item} {c : Contents}
    {found : List Property} (h : (item.add s false doc c).properties = found ++ c.properties) :
    (item.view s false doc).properties = found.map Property.content ∧
      (item.add s false doc .empty).valueSpans = found.map (·.valueSpan) := by
  have hview := congrArg ContentsView.properties (item.add_view_append s false doc c)
  have hspans := item.valueSpans_add s s doc c
  rw [ContentsView.properties_append, Contents.view, Contents.view, h, List.map_append] at hview
  rw [Contents.valueSpans, h, List.map_append] at hspans
  exact ⟨(List.append_cancel_right hview).symm, (List.append_cancel_right hspans).symm⟩

/-- A property of the contents is found by the first step or behind it. -/
theorem Item.property_cases {s : Text} {doc : List Text} {item : Item} {c : Contents}
    {front back : List Property} {p : Property}
    (h : (item.add s false doc c).properties = front ++ p :: back) :
    (∃ head others, item = .line head others ∧ front = [] ∧
        readBodyLine s doc head others = .inr p ∧ back = c.properties) ∨
      ∃ found front', front = found ++ front' ∧ c.properties = front' ++ p :: back ∧
        (item.add s false doc c).properties = found ++ c.properties := by
  rcases item.properties_add s doc c with hsame | ⟨head, others, q, hitem, hread, hadd⟩
  · exact .inr ⟨[], front, rfl, hsame.symm.trans h, hsame⟩
  · rw [hadd] at h
    -- The property is that of the line, or it stands behind the one of the line.
    cases front with
    | nil =>
      obtain ⟨rfl, rfl⟩ := List.cons.inj h
      exact .inl ⟨head, others, hitem, rfl, hread, rfl⟩
    | cons q' front' =>
      obtain ⟨rfl, hrest⟩ := List.cons.inj h
      exact .inr ⟨[q], front', rfl, hrest, hadd⟩

/-- **Every property of a balanced body has its place.** Other tokens may stand there in place of
its own ones and leave what is said before them as it is. -/
theorem exists_propertyPlace {s : Text} {doc : List Text} {tokens : List Token}
    {front back : List Property} {p : Property} (hb : balance [] tokens = some [])
    (h : (contentsFrom s false doc tokens).properties = front ++ p :: back) :
    ∃ w : PropertyPlace, w.Valid ∧ tokens = w.tokens ∧
      readBodyLine s w.doc w.head w.others = .inr p ∧
      back = (contentsFrom s false [] w.rest).properties ∧
      ∃ v : ContentsView, v.properties = front.map Property.content ∧
        (contentsFrom s false doc tokens).view s = v ++ (contentsFrom s false w.doc w.own).view s ∧
        ∀ (s' : Text) (own' : List Token), Stands w.own own' → Alike s s' id id w.before →
          (contentsFrom s' false doc (w.before ++ own')).view s'
              = v ++ (contentsFrom s' false w.doc own').view s' ∧
            (contentsFrom s' false doc (w.before ++ own')).valueSpans
              = front.map (·.valueSpan) ++ (contentsFrom s' false w.doc own').valueSpans := by
  induction doc, tokens using steps_induction false generalizing front with
  | nil doc => simp [Contents.empty] at h
  | step doc t others item doc' rest hstep ih =>
    obtain ⟨_, hcontents⟩ := contentsFrom_of_step hstep s
    have hrest := hstep.balance_rest hb
    have hproperties : (item.add s false doc (contentsFrom s false doc' rest)).properties
        = front ++ p :: back := by
      -- The tokens of the step go in front of the place that is found behind them.
      rw [← h, hcontents]
      rfl
    rcases Item.property_cases hproperties with
      ⟨head, line, rfl, rfl, hread, rfl⟩ | ⟨found, front', rfl, hlater, hfound⟩
    · -- The property is that of the first line: its place is at the front.
      obtain ⟨htokens, rfl⟩ := hstep.line_tokens
      refine ⟨⟨[], doc, head, line, rest⟩, ⟨?_, rfl, ?_, hrest⟩, htokens, hread, rfl,
        .empty, rfl, ?_, ?_⟩
      · rwa [htokens] at hstep
      · rwa [htokens] at hb
      · rw [htokens]
        rfl
      · intro s' own' _ _
        exact ⟨rfl, rfl⟩
    · -- The property stands behind the first item, which is read as before.
      obtain ⟨w, hvalid, rfl, hread, hback, v, hv, hold, hswap⟩ :=
        ih hrest hlater
      obtain ⟨used, hused, -, hmem⟩ := hstep.exists_used
      obtain ⟨hitem, hspans⟩ := Item.properties_split hfound
      refine ⟨{ w with before := used ++ w.before },
        ⟨hvalid.step, ?_, hvalid.own, hvalid.rest⟩, ?_, hread, hback,
        item.view s false doc ++ v, ?_, ?_, ?_⟩
      · -- What is closed in the item closes before the place.
        rw [hused] at hb
        rw [balance_append_of_balanced (balance_front hb hrest)]
        exact hvalid.before
      · rw [hused]
        exact (List.append_assoc ..).symm
      · rw [ContentsView.properties_append, hitem, hv, List.map_append]
      · rw [hstep.view s, hold, ContentsView.append_assoc]
        rfl
      · -- The tokens before the place are read alike, so the item in front shows the same.
        intro s' own' hstands halike
        have hstands' : Stands (w.before ++ w.own) (w.before ++ own') := hstands.append w.before
        have htokens : w.tokens = w.before ++ w.own := rfl
        rw [hused, htokens] at hstep
        have hstep' : Step false doc (used ++ (w.before ++ own')) item doc' (w.before ++ own') :=
          hstep.swap hstands'
        obtain ⟨hview, hlaterspans⟩ :=
          hswap s' own' hstands (halike.mono fun u hu => List.mem_append_right _ hu)
        have hsame : item.view s' false doc = item.view s false doc :=
          hstep.view_alike (halike.mono fun u hu => List.mem_append_left _ (hmem u hu))
        refine ⟨?_, ?_⟩
        · rw [List.append_assoc, hstep'.view s', hview, hsame, ContentsView.append_assoc]
        · rw [List.append_assoc, hstep'.valueSpans s' s, hlaterspans, hspans, List.map_append,
            List.append_assoc]

end SchemaDiagram

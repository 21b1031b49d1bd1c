import SchemaDiagram.Proofs.DoubleRange
import SchemaDiagram.Proofs.Outcomes
import SchemaDiagram.Proofs.WrittenNumbers
import SchemaDiagram.Proofs.XmlReading

/-! # Drawings with written values

A drawing is written in two steps: its values are calculated in place, and then the tree is written.
The first step keeps the elements, the names of the attributes and the texts, and comes to an end
unless some coordinate is a whole number past all doubles. What it yields needs no escaping.

* **`XmlTag.outline`** — a tag without the values of its attributes.
* **`SvgNode.IsImage`**, **`isImage_of_mapValues`** — what is kept where the values of a tree are
  calculated.
* **`SvgNode.exists_mapValues_iff`** — the values of a tree can be calculated just if each of them
  can.
* **`SvgValue.IsSafe`** — a value whose written form can pass for no tag.
* **`SvgValue.exists_text_iff`** — a value is written just if its coordinates can be. -/

namespace SchemaDiagram

/-! ## Outlines -/

namespace XmlTag

variable {V : Type}

/-- A tag with the names of its attributes only. -/
def outline : XmlTag V → XmlTag Unit
  | declaration contents => declaration contents
  | opening name attributes => opening name (attributes.map fun a => (a.1, ()))
  | empty name attributes => empty name (attributes.map fun a => (a.1, ()))
  | closing name => closing name

@[simp] theorem outline_opening (name : Text) (attributes : List (Text × V)) :
    (opening name attributes).outline = opening name (attributes.map fun a => (a.1, ())) := rfl

@[simp] theorem outline_empty (name : Text) (attributes : List (Text × V)) :
    (empty name attributes).outline = empty name (attributes.map fun a => (a.1, ())) := rfl

@[simp] theorem outline_closing (name : Text) : (closing name : XmlTag V).outline = closing name :=
  rfl

/-- The values of the attributes of a tag. -/
def values : XmlTag V → List V
  | opening _ attributes | empty _ attributes => attributes.map (·.2)
  | declaration _ | closing _ => []

end XmlTag

namespace SvgNode

variable {V W ε : Type} {f : V → Except ε W}

/-- Attributes whose values have been calculated have the same names. -/
theorem mapAttributes_eq_ok_iff {attributes : List (String × V)} {results : List (String × W)} :
    mapAttributes f attributes = .ok results ↔
      List.Forall₂ (fun a b => b.1 = a.1 ∧ f a.2 = .ok b.2) attributes results := by
  -- A pair of a name and a value is calculated by its value.
  have hpair : ∀ (a : String × V) (b : String × W),
      (do return (a.1, ← f a.2) : Except ε (String × W)) = .ok b ↔ b.1 = a.1 ∧ f a.2 = .ok b.2 := by
    intro a b
    rw [bind_eq_ok_iff]
    constructor
    · rintro ⟨w, hw, h⟩
      obtain rfl := Except.ok.inj h
      exact ⟨rfl, hw⟩
    · rintro ⟨hname, hw⟩
      exact ⟨b.2, hw, congrArg Except.ok (Prod.ext hname.symm rfl)⟩
  rw [mapAttributes, mapM_eq_ok_iff]
  simp only [hpair]

/-- The attributes can be mapped when each of their values can. -/
theorem exists_mapAttributes_iff {attributes : List (String × V)} :
    (∃ results, mapAttributes f attributes = .ok results) ↔
    ∀ v ∈ attributes.map (·.2), ∃ w, f v = .ok w := by
  rw [List.forall_mem_map]
  refine exists_mapM_eq_ok_iff.trans (forall₂_congr fun a _ => ?_)
  constructor
  · rintro ⟨b, hb⟩
    obtain ⟨w, hw, -⟩ := bind_eq_ok_iff.1 hb
    exact ⟨w, hw⟩
  · rintro ⟨w, hw⟩
    exact ⟨(a.1, w), bind_eq_ok_iff.2 ⟨w, hw, rfl⟩⟩

/-- **What is kept** where the values of a tree are calculated: its outline, its texts, and that it
can be read back. -/
structure IsImage (R : V → W → Prop) (node : SvgNode V) (result : SvgNode W) : Prop where
  /-- The elements have the same names, and so have their attributes. -/
  outline : result.tags.map (·.outline) = node.tags.map (·.outline)
  /-- The texts are the same. -/
  texts : result.texts = node.texts
  /-- The names are names, and the values hold if the calculation sees to that. -/
  holds : ∀ {p : V → Prop} {q : W → Prop}, (∀ v w, R v w → p v → q w) → node.Holds p →
    result.Holds q

section

variable {R : V → W → Prop} {attributes : List (String × V)} {results : List (String × W)}
  {nodes : List (SvgNode V)} {images : List (SvgNode W)}

/-- Attributes under the same names have the same outline. -/
theorem outline_namedAttributes
    (h : List.Forall₂ (fun a b => b.1 = a.1 ∧ R a.2 b.2) attributes results) :
    (namedAttributes results).map (fun a => (a.1, ()))
      = (namedAttributes attributes).map fun a => (a.1, ()) := by
  induction h with
  | nil => rfl
  | cons hab _ ih => simp only [namedAttributes, List.map_cons, hab.1] at ih ⊢; rw [ih]

/-- What holds of the values of some attributes holds of their images. -/
theorem attributesHold_of_forall₂
    (h : List.Forall₂ (fun a b => b.1 = a.1 ∧ R a.2 b.2) attributes results)
    {p : V → Prop} {q : W → Prop} (hR : ∀ v w, R v w → p v → q w)
      (hp : AttributesHold p attributes) :
    AttributesHold q results := by
  induction h with
  | nil => exact nofun
  | cons hab _ ih =>
    intro a ha
    rcases List.mem_cons.1 ha with rfl | ha
    · obtain ⟨hname, hvalue⟩ := hp _ List.mem_cons_self
      exact ⟨hab.1 ▸ hname, hR _ _ hab.2 hvalue⟩
    · exact ih (fun b hb => hp b (List.mem_cons_of_mem _ hb)) a ha

/-- The images of some nodes have the outlines of the tags of these nodes. -/
theorem outline_tagsOf (h : List.Forall₂ (IsImage R) nodes images) :
    (tagsOf images).map (·.outline) = (tagsOf nodes).map (·.outline) := by
  induction h with
  | nil => rfl
  | cons hnode _ ih => rw [tagsOf, tagsOf, List.map_append, List.map_append, hnode.outline, ih]

/-- The images of some nodes have the texts of these nodes. -/
theorem textsOf_eq (h : List.Forall₂ (IsImage R) nodes images) :
    textsOf images = textsOf nodes := by
  induction h with
  | nil => rfl
  | cons hnode _ ih => rw [textsOf, textsOf, hnode.texts, ih]

/-- What holds of the values of some nodes holds of their images. -/
theorem allHold_of_forall₂ (h : List.Forall₂ (IsImage R) nodes images) {p : V → Prop} {q : W → Prop}
    (hR : ∀ v w, R v w → p v → q w) (hp : AllHold p nodes) : AllHold q images := by
  induction h with
  | nil => trivial
  | cons hnode _ ih => exact ⟨hnode.holds hR hp.1, ih hp.2⟩

/-- A text node is mapped by its attributes. -/
theorem isImage_text
    (hattributes : List.Forall₂ (fun a b => b.1 = a.1 ∧ R a.2 b.2) attributes results)
    (words : Text) : IsImage R (text attributes words) (text results words) := by
  refine ⟨?_, rfl, fun hR hp => attributesHold_of_forall₂ hattributes hR hp⟩
  simp only [tags, List.map_cons, List.map_nil, XmlTag.outline_opening, XmlTag.outline_closing]
  rw [outline_namedAttributes hattributes]

/-- An element is mapped by its attributes and the nodes in it. -/
theorem isImage_element (name : String)
    (hattributes : List.Forall₂ (fun a b => b.1 = a.1 ∧ R a.2 b.2) attributes results)
    (hnodes : List.Forall₂ (IsImage R) nodes images) :
    IsImage R (element name attributes nodes) (element name results images) := by
  refine ⟨?_, textsOf_eq hnodes, fun hR hp =>
    ⟨hp.1, attributesHold_of_forall₂ hattributes hR hp.2.1, allHold_of_forall₂ hnodes hR hp.2.2⟩⟩
  -- An element without nodes in it has one tag, and any other has two.
  cases hnodes with
  | nil =>
    simp only [tags, List.map_cons, List.map_nil, XmlTag.outline_empty]
    rw [outline_namedAttributes hattributes]
  | cons hnode hrest =>
    simp only [tags, List.cons_append, List.map_cons, List.map_append, List.map_nil,
      XmlTag.outline_opening, XmlTag.outline_closing]
    rw [outline_namedAttributes hattributes, hnode.outline, outline_tagsOf hrest]

/-- A group is mapped by its attributes and the nodes in it. -/
theorem isImage_group (name : String)
    (hattributes : List.Forall₂ (fun a b => b.1 = a.1 ∧ R a.2 b.2) attributes results)
    (hnodes : List.Forall₂ (IsImage R) nodes images) :
    IsImage R (group name attributes nodes) (group name results images) := by
  refine ⟨?_, textsOf_eq hnodes, fun hR hp =>
    ⟨hp.1, attributesHold_of_forall₂ hattributes hR hp.2.1, allHold_of_forall₂ hnodes hR hp.2.2⟩⟩
  simp only [tags, List.cons_append, List.map_cons, List.map_append, List.map_nil,
    XmlTag.outline_opening, XmlTag.outline_closing]
  rw [outline_namedAttributes hattributes, outline_tagsOf hnodes]

end

mutual

/-- **A tree whose values have been calculated** has the same outline and the same texts. -/
theorem isImage_of_mapValues :
    (node : SvgNode V) → (result : SvgNode W) → node.mapValues f = .ok result →
    IsImage (fun v w => f v = .ok w) node result
  -- The induction is on the tree, together with `areImages_of_mapAllValues` on lists of trees.
  | text attributes words, result, h => by
    obtain ⟨results, hresults, h⟩ := bind_eq_ok_iff.1 h
    obtain rfl := Except.ok.inj h
    exact isImage_text (mapAttributes_eq_ok_iff.1 hresults) words
  | element name attributes nodes, result, h => by
    obtain ⟨results, hresults, h⟩ := bind_eq_ok_iff.1 h
    obtain ⟨images, himages, h⟩ := bind_eq_ok_iff.1 h
    obtain rfl := Except.ok.inj h
    exact isImage_element name (mapAttributes_eq_ok_iff.1 hresults)
      (areImages_of_mapAllValues nodes images himages)
  | group name attributes nodes, result, h => by
    obtain ⟨results, hresults, h⟩ := bind_eq_ok_iff.1 h
    obtain ⟨images, himages, h⟩ := bind_eq_ok_iff.1 h
    obtain rfl := Except.ok.inj h
    exact isImage_group name (mapAttributes_eq_ok_iff.1 hresults)
      (areImages_of_mapAllValues nodes images himages)

/-- Each of some nodes is mapped to its image. -/
theorem areImages_of_mapAllValues : (nodes : List (SvgNode V)) → (images : List (SvgNode W)) →
    mapAllValues f nodes = .ok images → List.Forall₂ (IsImage fun v w => f v = .ok w) nodes images
  | [], images, h => by
    obtain rfl := Except.ok.inj h
    exact .nil
  | node :: nodes, images, h => by
    obtain ⟨image, himage, h⟩ := bind_eq_ok_iff.1 h
    obtain ⟨rest, hrest, h⟩ := bind_eq_ok_iff.1 h
    obtain rfl := Except.ok.inj h
    exact .cons (isImage_of_mapValues node image himage)
      (areImages_of_mapAllValues nodes rest hrest)

end

/-- The values of a tree, in the order of the document. -/
def values (node : SvgNode V) : List V := node.tags.flatMap (·.values)

/-- The values of an element are those of its attributes and of the nodes in it. -/
theorem mem_values_element {name : String} {attributes : List (String × V)}
    {nodes : List (SvgNode V)} {v : V} :
    v ∈ (element name attributes nodes).values ↔
      v ∈ attributes.map (·.2) ∨ v ∈ (tagsOf nodes).flatMap (·.values) := by
  cases nodes <;> simp [values, tags, tagsOf, XmlTag.values, namedAttributes]

/-- The values of a group are those of its attributes and of the nodes in it. -/
theorem mem_values_group {name : String} {attributes : List (String × V)} {nodes : List (SvgNode V)}
    {v : V} :
    v ∈ (group name attributes nodes).values ↔
      v ∈ attributes.map (·.2) ∨ v ∈ (tagsOf nodes).flatMap (·.values) := by
  simp [values, tags, XmlTag.values, namedAttributes]

mutual

/-- **The values of a tree can be calculated** just if each of them can. -/
theorem exists_mapValues_iff : (node : SvgNode V) →
    ((∃ result, node.mapValues f = .ok result) ↔ ∀ v ∈ node.values, ∃ w, f v = .ok w)
  | text attributes words => by
    have hvalues : (text attributes words).values = attributes.map (·.2) := by
      simp [values, tags, XmlTag.values, namedAttributes]
    rw [hvalues, ← exists_mapAttributes_iff]
    constructor
    · rintro ⟨result, h⟩
      obtain ⟨results, hresults, -⟩ := bind_eq_ok_iff.1 h
      exact ⟨results, hresults⟩
    · rintro ⟨results, hresults⟩
      exact ⟨text results words, bind_eq_ok_iff.2 ⟨results, hresults, rfl⟩⟩
  -- A value fails in the attributes or in a node of the element.
  | element name attributes nodes => by
    simp only [mem_values_element, or_imp, forall_and, ← exists_mapAttributes_iff]
    rw [← exists_mapAllValues_iff nodes]
    exact exists_bind_bind_iff
  | group name attributes nodes => by
    simp only [mem_values_group, or_imp, forall_and, ← exists_mapAttributes_iff]
    rw [← exists_mapAllValues_iff nodes]
    exact exists_bind_bind_iff

/-- Some nodes can be mapped when each of their values can. -/
theorem exists_mapAllValues_iff : (nodes : List (SvgNode V)) →
    ((∃ images, mapAllValues f nodes = .ok images) ↔
    ∀ v ∈ (tagsOf nodes).flatMap (·.values), ∃ w, f v = .ok w)
  | [] => ⟨fun _ => nofun, fun _ => ⟨[], rfl⟩⟩
  | node :: nodes => by
    simp only [tagsOf, List.flatMap_append, List.mem_append, or_imp, forall_and]
    rw [← exists_mapAllValues_iff nodes]
    have hnode := exists_mapValues_iff node
    rw [values] at hnode
    rw [← hnode]
    exact exists_bind_bind_iff

end

end SvgNode

/-! ## Written values -/

/-- The characters of numbers may stand in an attribute. -/
theorem isQuotable_of_numeralChars {s : Text} (h : ∀ c ∈ s, c ∈ numeralChars) : IsQuotable s := by
  have hall : numeralChars.all (fun c => c != '<' && c != '"') = true := by decide
  intro c hc
  simpa using List.all_eq_true.1 hall c (h c hc)

/-- Two texts that may stand in an attribute may stand there together. -/
theorem IsQuotable.append {s t : Text} (hs : IsQuotable s) (ht : IsQuotable t) :
    IsQuotable (s ++ t) := fun c hc =>
  (List.mem_append.1 hc).elim (hs c) (ht c)

/-- A count may stand in an attribute. -/
theorem isQuotable_ofNat (n : Nat) : IsQuotable (Text.ofNat n) :=
  isQuotable_of_numeralChars (mem_ofInt n).2

/-- Texts that may stand in an attribute may stand there with blanks between them. -/
theorem isQuotable_join {parts : List Text} (h : ∀ part ∈ parts, IsQuotable part) :
    IsQuotable (Text.join [' '] parts) := by
  induction parts with
  | nil => exact nofun
  | cons part parts ih =>
    cases parts with
    | nil => exact h part List.mem_cons_self
    | cons next parts =>
      rw [Text.join_cons_cons]
      have hrest := ih fun p hp => h p (List.mem_cons_of_mem _ hp)
      exact ((h part List.mem_cons_self).append (by decide)).append hrest

/-- A double with a fixed number of places is written like a numeral. -/
theorem mem_fixedDigits {places m : Nat} {e : Int} :
    ∀ c ∈ fixedDigits places m e, c ∈ numeralChars := by
  -- The digits before the point and behind it are those of one whole number, padded with zeros.
  have hdigits : ∀ n : Nat, ∀ c ∈ Text.padLeftWith '0' (places + 1) (Text.ofNat n),
      c ∈ numeralChars := by
    intro n c hc
    rcases List.mem_append.1 hc with hc | hc
    · rw [List.eq_of_mem_replicate hc]
      decide
    · exact (mem_ofInt n).2 c hc
  intro c hc
  rcases List.mem_append.1 hc with hc | hc
  · exact hdigits _ c (List.mem_of_mem_take hc)
  · rcases List.mem_cons.1 hc with rfl | hc
    · decide
    · exact hdigits _ c (List.mem_of_mem_drop hc)

/-- A double with a fixed number of places is written with the characters of numbers. -/
theorem mem_fixedText {places : Nat} {x : Float} : ∀ c ∈ fixedText places x, c ∈ numeralChars := by
  rw [fixedText, writeFloat]
  cases Binary.ofFloat x with
  | nan => exact mem_numeralChars rfl
  | infinite negative => cases negative <;> exact mem_numeralChars rfl
  | finite negative m e =>
    -- The sign, and then the digits, whether or not the double is past the places.
    intro c hc
    rcases List.mem_append.1 hc with hc | hc
    · cases negative with
      | true => exact mem_numeralChars (s := ['-']) rfl c hc
      | false => cases hc
    · split at hc
      · exact mem_fixedDigits c hc
      · exact mem_fixedDigits c hc

/-- **A coordinate needs no escaping.** -/
theorem isQuotable_coordinateText {a : Mixed} {s : Text} (h : coordinateText a = .ok s) :
    IsQuotable s := by
  obtain ⟨x, -, rfl⟩ : ∃ x, a.toFloat = .ok x ∧ coordinateDigits x = s := by
    rw [coordinateText] at h
    cases hx : a.toFloat with
    | error f => rw [hx] at h; cases h
    | ok x => rw [hx] at h; exact ⟨x, rfl, Except.ok.inj h⟩
  refine isQuotable_of_numeralChars ?_
  rw [coordinateDigits]
  split
  · exact mem_numeralChars rfl
  · intro c hc
    exact mem_fixedText c (Text.mem_of_mem_dropTail (Text.mem_of_mem_dropTail hc))

/-- A point may stand in an attribute. -/
theorem isQuotable_pointText {p : Point Mixed} {s : Text} (h : p.text = .ok s) : IsQuotable s := by
  obtain ⟨x, hx, h⟩ := bind_eq_ok_iff.1 h
  obtain ⟨y, hy, h⟩ := bind_eq_ok_iff.1 h
  obtain rfl := Except.ok.inj h
  simpa [concat] using (isQuotable_coordinateText hx).append
    ((by decide : IsQuotable [' ']).append (isQuotable_coordinateText hy))

/-- A command of a path may stand in an attribute. -/
theorem isQuotable_commandText {c : PathCommand Mixed} {s : Text} (h : c.text = .ok s) :
    IsQuotable s := by
  obtain ⟨points, hpoints, h⟩ := bind_eq_ok_iff.1 h
  obtain rfl := Except.ok.inj h
  have hletter : IsQuotable [c.op.letter, ' '] := by cases c.op <;> decide
  have hjoin : IsQuotable (Text.join [' '] points) := isQuotable_join fun point hpoint => by
    obtain ⟨p, -, hp⟩ := exists_mem_of_mapM_eq_ok hpoints hpoint
    exact isQuotable_pointText hp
  exact hletter.append hjoin

/-- **A path needs no escaping.** -/
theorem isQuotable_pathText {commands : List (PathCommand Mixed)} {s : Text}
    (h : pathText commands = .ok s) :
    IsQuotable s := by
  obtain ⟨parts, hparts, h⟩ := bind_eq_ok_iff.1 h
  obtain rfl := Except.ok.inj h
  refine isQuotable_join fun part hpart => ?_
  obtain ⟨c, -, hc⟩ := exists_mem_of_mapM_eq_ok hparts hpart
  exact isQuotable_commandText hc

namespace SvgValue

/-- **A value that can be read back**: its written form can pass for no tag. -/
def IsSafe (v : SvgValue) : Prop := ∀ s, v.text = .ok s → IsQuotable s

@[simp] theorem isSafe_words (s : Text) : (words s).IsSafe := fun t h => by
  obtain rfl := Except.ok.inj h
  exact isQuotable_escapeXml s

/-- A plain value is safe when it may stand in an attribute. -/
@[simp] theorem isSafe_plain_iff {s : Text} : (plain s).IsSafe ↔ IsQuotable s := by
  constructor
  · intro h
    exact h s rfl
  · rintro h t ht
    obtain rfl := Except.ok.inj ht
    exact h

@[simp] theorem isSafe_number (a : Mixed) : (number a).IsSafe :=
  fun _ h => isQuotable_coordinateText h

@[simp] theorem isSafe_path (commands : List (PathCommand Mixed)) : (path commands).IsSafe :=
  fun _ h => isQuotable_pathText h

@[simp] theorem isSafe_canvas (width height : Mixed) : (canvas width height).IsSafe := fun s h => by
  obtain ⟨w, hw, h⟩ := bind_eq_ok_iff.1 h
  obtain ⟨t, ht, h⟩ := bind_eq_ok_iff.1 h
  obtain rfl := Except.ok.inj h
  have hstart : IsQuotable "0 0 ".toList := by decide
  simpa [concat] using (hstart.append (isQuotable_coordinateText hw)).append
    ((by decide : IsQuotable [' ']).append (isQuotable_coordinateText ht))

/-- The coordinates that a value is written with. -/
def coordinates : SvgValue → List Mixed
  | words _ | plain _ => []
  | number a => [a]
  | path commands => commands.flatMap fun c => c.points.flatMap fun p => [p.x, p.y]
  | canvas width height => [width, height]

end SvgValue

namespace Mixed

/-- **A coordinate that can be written**: it is a double, or a whole number below the limit of the
doubles. -/
def IsWritable : Mixed → Prop
  | whole n => n.natAbs < wholeLimit
  | real _ => True
  | fault _ => False

instance : DecidablePred IsWritable
  | whole n => inferInstanceAs (Decidable (n.natAbs < wholeLimit))
  | real _ => inferInstanceAs (Decidable True)
  | fault _ => inferInstanceAs (Decidable False)

/-- The numbers that have a double are those that can be written. -/
theorem exists_toFloat_iff {a : Mixed} : (∃ x, a.toFloat = .ok x) ↔ a.IsWritable := by
  cases a with
  -- A whole number has a double unless it is rounded to an infinity.
  | whole n =>
    have hdouble : (∃ x, floatOfInt? n = some x) ↔ n.natAbs < wholeLimit := by
      constructor
      · rintro ⟨x, hx⟩
        exact (floatOfInt?_eq_some_iff.1 hx).1
      · intro h
        exact ⟨_, floatOfInt?_eq_some_iff.2 ⟨h, rfl⟩⟩
    show _ ↔ n.natAbs < wholeLimit
    rw [← hdouble, toFloat]
    cases floatOfInt? n <;> simp
  | real x => exact iff_of_true ⟨x, rfl⟩ trivial
  | fault f => exact iff_of_false nofun id

end Mixed

/-- A coordinate has a text when it can be written. -/
theorem exists_coordinateText_iff {a : Mixed} : (∃ s, coordinateText a = .ok s) ↔ a.IsWritable := by
  rw [coordinateText, ← Mixed.exists_toFloat_iff]
  cases a.toFloat <;> simp [Except.map]

/-- A point has a text when both of its coordinates can be written. -/
theorem exists_pointText_iff {p : Point Mixed} :
    (∃ s, p.text = .ok s) ↔ p.x.IsWritable ∧ p.y.IsWritable := by
  rw [← exists_coordinateText_iff, ← exists_coordinateText_iff]
  exact exists_bind_bind_iff

/-- A command of a path has a text when the coordinates of its points can be written. -/
theorem exists_commandText_iff {c : PathCommand Mixed} :
    (∃ s, c.text = .ok s) ↔ ∀ p ∈ c.points, p.x.IsWritable ∧ p.y.IsWritable := by
  simp only [← exists_pointText_iff]
  rw [← exists_mapM_eq_ok_iff]
  exact exists_bind_iff

/-- **A value is written** just if its coordinates can be. -/
theorem SvgValue.exists_text_iff {v : SvgValue} :
    (∃ s, v.text = .ok s) ↔ ∀ a ∈ v.coordinates, a.IsWritable := by
  cases v with
  | words s => simp [text, coordinates]
  | plain s => simp [text, coordinates]
  | number a => simp [text, coordinates, exists_coordinateText_iff]
  | path commands =>
    simp only [coordinates, List.forall_mem_flatMap, List.forall_mem_cons, List.not_mem_nil,
      false_implies, implies_true, and_true, ← exists_commandText_iff]
    rw [← exists_mapM_eq_ok_iff]
    exact exists_bind_iff
  | canvas width height =>
    simp only [coordinates, List.forall_mem_cons, List.not_mem_nil, false_implies, implies_true,
      and_true, ← exists_coordinateText_iff]
    exact exists_bind_bind_iff

end SchemaDiagram

import Mathlib.Tactic.SplitIfs
import SchemaDiagram.Render.Svg

/-! # Reading a document back

A document is read character by character, as any reader of XML reads it: a bracket begins a tag
wherever it stands outside of one, and what is quoted in a tag belongs to a value. The tags that are
found in a written tree are those of the tree, and the texts that are found are its texts in their
written form, so that no text can pass for a tag.

* **`unescapeXml`** — the text of a written form, and **`unescapeXml_escapeXml`** — nothing is lost.
* **`XmlPlace.step`**, **`readXml`** — the reader.
* **`SvgNode.tags`**, **`SvgNode.texts`** — the tags and the texts of a tree.
* **`writes_document`** — the document of a tree is read as its tags and its texts. -/

namespace SchemaDiagram

/-! ## Written forms -/

/-- The written form of one character. -/
def escapeXmlChar (c : Char) : Text :=
  if c = '&' then "&amp;".toList
  else if c = '<' then "&lt;".toList
  else if c = '>' then "&gt;".toList
  else if c = '"' then "&quot;".toList
  else if c = '\x27' then "&apos;".toList
  else [c]

/-- The text of a written form. -/
def unescapeXml : Text → Text
  | '&' :: 'a' :: 'm' :: 'p' :: ';' :: rest => '&' :: unescapeXml rest
  | '&' :: 'l' :: 't' :: ';' :: rest => '<' :: unescapeXml rest
  | '&' :: 'g' :: 't' :: ';' :: rest => '>' :: unescapeXml rest
  | '&' :: 'q' :: 'u' :: 'o' :: 't' :: ';' :: rest => '"' :: unescapeXml rest
  | '&' :: 'a' :: 'p' :: 'o' :: 's' :: ';' :: rest => '\x27' :: unescapeXml rest
  | c :: rest => c :: unescapeXml rest
  | [] => []

/-- A character is replaced in both of two texts. -/
theorem Text.replaceChar_append (s t : Text) (c : Char) (word : Text) :
    (s ++ t).replaceChar c word = s.replaceChar c word ++ t.replaceChar c word :=
  List.flatMap_append

/-- Two texts are escaped each for itself. -/
theorem escapeXml_append (s t : Text) : escapeXml (s ++ t) = escapeXml s ++ escapeXml t := by
  simp only [escapeXml, xmlEntities, List.foldl_cons, List.foldl_nil, Text.replaceChar_append]

/-- The replacements do not meet: the first one is done with before its words get ampersands of
their own, and no word holds a character that is still to come. -/
theorem escapeXml_singleton (c : Char) : escapeXml [c] = escapeXmlChar c := by
  by_cases hc : c ∈ ['&', '<', '>', '"', '\x27']
  · simp only [List.mem_cons, List.not_mem_nil, or_false] at hc
    rcases hc with rfl | rfl | rfl | rfl | rfl <;> decide
  · simp only [List.mem_cons, List.not_mem_nil, or_false, not_or] at hc
    obtain ⟨hamp, hlt, hgt, hquot, hapos⟩ := hc
    simp [escapeXml, xmlEntities, Text.replaceChar, escapeXmlChar, hamp, hlt, hgt, hquot, hapos]

/-- **The five replacements in turn** are one replacement of every character. -/
theorem escapeXml_eq_flatMap (s : Text) : escapeXml s = s.flatMap escapeXmlChar := by
  induction s with
  | nil => rfl
  | cons c s ih =>
    rw [List.flatMap_cons, ← ih, ← escapeXml_singleton, ← escapeXml_append]
    rfl

/-- The written form of a character is read as this character. -/
theorem unescapeXml_escapeXmlChar (c : Char) (rest : Text) :
    unescapeXml (escapeXmlChar c ++ rest) = c :: unescapeXml rest := by
  unfold escapeXmlChar
  split_ifs with hamp hlt hgt hquot hapos
  · subst hamp
    rfl
  · subst hlt
    rfl
  · subst hgt
    rfl
  · subst hquot
    rfl
  · subst hapos
    rfl
  · -- A character that is written as itself is no ampersand, so no reference starts there.
    rw [List.singleton_append, unescapeXml]
    all_goals
      intro _ heq
      exact absurd heq hamp

/-- **The text of a written form** is the text that was written. -/
theorem unescapeXml_escapeXml (s : Text) : unescapeXml (escapeXml s) = s := by
  rw [escapeXml_eq_flatMap]
  induction s with
  | nil => rfl
  | cons c s ih => rw [List.flatMap_cons, unescapeXml_escapeXmlChar, ih]

/-- **A text that can pass for no tag**: it begins none, and it ends no value. -/
def IsQuotable (s : Text) : Prop := ∀ c ∈ s, c ≠ '<' ∧ c ≠ '"'

instance (s : Text) : Decidable (IsQuotable s) := List.decidableBAll (fun c => c ≠ '<' ∧ c ≠ '"') s

/-- An escaped text may stand in an attribute. -/
theorem isQuotable_escapeXml (s : Text) : IsQuotable (escapeXml s) := by
  rw [escapeXml_eq_flatMap]
  intro c hc
  obtain ⟨d, -, hd⟩ := List.mem_flatMap.1 hc
  unfold escapeXmlChar at hd
  split_ifs at hd with hamp hlt hgt hquot hapos
  · exact (by decide : IsQuotable "&amp;".toList) c hd
  · exact (by decide : IsQuotable "&lt;".toList) c hd
  · exact (by decide : IsQuotable "&gt;".toList) c hd
  · exact (by decide : IsQuotable "&quot;".toList) c hd
  · exact (by decide : IsQuotable "&apos;".toList) c hd
  · rw [List.mem_singleton.1 hd]
    exact ⟨hlt, hquot⟩

/-! ## The reader -/

/-- A tag, with attribute values of some kind. -/
inductive XmlTag (V : Type) where
  /-- A declaration. -/
  | declaration (contents : Text)
  /-- The start of an element. -/
  | opening (name : Text) (attributes : List (Text × V))
  /-- An element without contents. -/
  | empty (name : Text) (attributes : List (Text × V))
  /-- The end of an element. -/
  | closing (name : Text)

/-- What is found in a document. -/
inductive XmlToken where
  /-- A character outside of tags. -/
  | character (c : Char)
  /-- A tag. -/
  | tag (t : XmlTag Text)

/-- Where a reader is, with what it has gathered there. -/
inductive XmlPlace where
  /-- Outside of tags. -/
  | content
  /-- Behind the bracket that begins a tag. -/
  | start
  /-- In a declaration. -/
  | declaration (contents : Text)
  /-- In the tag that ends an element. -/
  | closing (name : Text)
  /-- In the name of an element. -/
  | opening (name : Text)
  /-- Behind a blank in a tag. -/
  | blank (name : Text) (attributes : List (Text × Text))
  /-- In the name of an attribute. -/
  | key (name : Text) (attributes : List (Text × Text)) (key : Text)
  /-- Behind the equals sign of an attribute. -/
  | equals (name : Text) (attributes : List (Text × Text)) (key : Text)
  /-- In the value of an attribute. -/
  | value (name : Text) (attributes : List (Text × Text)) (key : Text) (quote : Char) (value : Text)
  /-- Behind the value of an attribute. -/
  | behind (name : Text) (attributes : List (Text × Text))
  /-- Behind the slash of an element without contents. -/
  | slash (name : Text) (attributes : List (Text × Text))

/-- Whether a character can stand in the name of an element or an attribute. -/
def isXmlNameChar (c : Char) : Bool := c.isAlphanum || c = '-' || c = '_' || c = ':' || c = '.'

namespace XmlPlace

/-- What a character does in a tag between names and values. -/
def stepInTag (name : Text) (attributes : List (Text × Text)) (c : Char) :
    Option (Option XmlToken × XmlPlace) :=
  if c = '>' then some (some (.tag (.opening name attributes)), content)
  else if c = '/' then some (none, slash name attributes)
  else if c = ' ' ∨ c = '\n' then some (none, blank name attributes)
  else none

/-- **What a character does**: it is found itself, it ends a tag, it leads on in a tag, or it is out
of place. -/
def step (c : Char) : XmlPlace → Option (Option XmlToken × XmlPlace)
  | content => if c = '<' then some (none, start) else some (some (.character c), content)
  | start =>
    if c = '/' then some (none, closing [])
    else if c = '?' then some (none, declaration [])
    else if isXmlNameChar c then some (none, opening [c])
    else none
  | declaration contents =>
    if c = '>' ∧
      contents.getLast? = some '?' then some (some (.tag (.declaration contents.dropLast)), content)
    else some (none, declaration (contents ++ [c]))
  | closing name =>
    if c = '>' then some (some (.tag (.closing name)), content)
    else if isXmlNameChar c then some (none, closing (name ++ [c]))
    else none
  | opening name =>
    if isXmlNameChar c then some (none, opening (name ++ [c])) else stepInTag name [] c
  | blank name attributes =>
    if isXmlNameChar c then some (none, key name attributes [c]) else stepInTag name attributes c
  | key name attributes gathered =>
    if isXmlNameChar c then some (none, key name attributes (gathered ++ [c]))
    else if c = '=' then some (none, equals name attributes gathered)
    else none
  | equals name attributes known =>
    if c = '"' ∨ c = '\x27' then some (none, value name attributes known c []) else none
  | value name attributes known quote gathered =>
    if c = quote then some (none, behind name (attributes ++ [(known, gathered)]))
    else if c = '<' then none
    else some (none, value name attributes known quote (gathered ++ [c]))
  | behind name attributes => stepInTag name attributes c
  | slash name attributes =>
    if c = '>' then some (some (.tag (.empty name attributes)), content) else none

end XmlPlace

/-- What is found from a place on; nothing if something is out of place, or if the text ends in a
tag. -/
def readFrom : XmlPlace → Text → Option (List XmlToken)
  | .content, [] => some []
  | _, [] => none
  | place, c :: rest => do
    let (token, next) ← place.step c
    return token.toList ++ (← readFrom next rest)

/-- What is found in a document. -/
def readXml (s : Text) : Option (List XmlToken) := readFrom .content s

/-- **A text leads from one place to another**, and something is found in it, whatever comes
behind. -/
def ReadsTo (place : XmlPlace) (s : Text) (found : List XmlToken) (next : XmlPlace) : Prop :=
  ∀ rest, readFrom place (s ++ rest) = (readFrom next rest).map (found ++ ·)

namespace ReadsTo

variable {place next last : XmlPlace} {s t : Text} {found more : List XmlToken} {c : Char}
    {token : Option XmlToken}

/-- Nothing is read from an empty text. -/
theorem nil (place : XmlPlace) : ReadsTo place [] [] place := fun rest => by simp

/-- A step reads one character. -/
theorem of_step (h : place.step c = some (token, next)) : ReadsTo place [c] token.toList next :=
  fun rest => by
  show readFrom place (c :: rest) = _
  rw [readFrom, h]
  simp only [Option.bind_eq_bind, Option.bind_some]
  cases readFrom next rest <;> rfl

/-- Texts are read one behind the other. -/
theorem append (hs : ReadsTo place s found next) (ht : ReadsTo next t more last) :
    ReadsTo place (s ++ t) (found ++ more) last := fun rest => by
  rw [List.append_assoc, hs, ht, Option.map_map]
  simp only [Function.comp_def, List.append_assoc]

/-- A character that leads on. -/
theorem lead (h : place.step c = some (none, next)) : ReadsTo place [c] [] next := of_step h

/-- A character with which something is found. -/
theorem find {token : XmlToken} (h : place.step c = some (some token, next)) :
    ReadsTo place [c] [token] next :=
  of_step h

/-- **Characters that are gathered** in a place. -/
theorem gather {f : Text → XmlPlace}
    (h : ∀ c ∈ s, ∀ gathered, (f gathered).step c = some (none, f (gathered ++ [c])))
      (gathered : Text) :
    ReadsTo (f gathered) s [] (f (gathered ++ s)) := by
  induction s generalizing gathered with
  | nil =>
    rw [List.append_nil]
    exact nil _
  | cons c s ih =>
    have hrest := ih (fun d hd => h d (List.mem_cons_of_mem _ hd)) (gathered ++ [c])
    rw [List.append_assoc, List.singleton_append] at hrest
    exact (lead (h c List.mem_cons_self gathered)).append hrest

/-- Characters outside of tags. -/
theorem characters (h : '<' ∉ s) : ReadsTo .content s (s.map .character) .content := by
  induction s with
  | nil => exact nil _
  | cons c s ih =>
    have hc : c ≠ '<' := fun heq => h (heq ▸ List.mem_cons_self)
    have hstep : XmlPlace.content.step c = some (some (.character c), .content) := if_neg hc
    exact (find hstep).append (ih fun hmem => h (List.mem_cons_of_mem _ hmem))

end ReadsTo

/-! ## Tags -/

/-- The name of an element or an attribute. -/
def IsXmlName (name : String) : Prop := name.toList ≠ [] ∧ ∀ c ∈ name.toList, isXmlNameChar c = true

instance (name : String) : Decidable (IsXmlName name) :=
  have : Decidable (∀ c ∈ name.toList, isXmlNameChar c = true) := List.decidableBAll _ _
  inferInstanceAs (Decidable (_ ∧ _))

/-- Attributes with their names as texts. -/
def namedAttributes {V : Type} (attributes : List (String × V)) : List (Text × V) :=
  attributes.map fun a => (a.1.toList, a.2)

/-- **Attributes that can be read back**: they have names, and what is said of their values
holds. -/
def AttributesHold {V : Type} (p : V → Prop) (attributes : List (String × V)) : Prop :=
  ∀ a ∈ attributes, IsXmlName a.1 ∧ p a.2

section Tags

variable {name : String} {attributes : List (String × Text)} {place : XmlPlace} {tagName : Text}
  {known : List (Text × Text)}

/-- A name is gathered from its first character on. -/
theorem IsXmlName.reads (h : IsXmlName name) {f : Text → XmlPlace}
    (hfirst : ∀ c, isXmlNameChar c = true → place.step c = some (none, f [c]))
    (hnext : ∀ c, isXmlNameChar c = true →
    ∀ gathered, (f gathered).step c = some (none, f (gathered ++ [c]))) :
    ReadsTo place name.toList [] (f name.toList) := by
  obtain ⟨hne, hchars⟩ := h
  cases hname : name.toList with
  | nil => exact absurd hname hne
  | cons c s =>
    rw [hname] at hchars
    have hs : ReadsTo (f [c]) s [] (f ([c] ++ s)) :=
      ReadsTo.gather (fun d hd => hnext d (hchars d (List.mem_cons_of_mem _ hd))) [c]
    exact (ReadsTo.lead (hfirst c (hchars c List.mem_cons_self))).append hs

/-- Places in a tag where a value or a name has just ended. -/
def XmlPlace.IsInTag (place : XmlPlace) (name : Text) (attributes : List (Text × Text)) : Prop :=
  ∀ c, isXmlNameChar c = false → place.step c = stepInTag name attributes c

/-- A tag without attributes is being read behind its name. -/
theorem isInTag_opening (name : Text) : (XmlPlace.opening name).IsInTag name [] := fun c hc => by
  simp [XmlPlace.step, hc]

/-- A tag is being read behind its attributes. -/
theorem isInTag_behind (name : Text) (attributes : List (Text × Text)) :
    (XmlPlace.behind name attributes).IsInTag name attributes := fun _ _ => rfl

/-- **An attribute in a tag** is read with its value. -/
theorem reads_attributeText {a : String × Text} (hplace : place.IsInTag tagName known)
    (hname : IsXmlName a.1) (hvalue : IsQuotable a.2) :
    ReadsTo place (SvgNode.attributeText a) []
      (.behind tagName (known ++ [(a.1.toList, a.2)])) := by
  have hblank : ReadsTo place [' '] [] (.blank tagName known) :=
    ReadsTo.lead (hplace ' ' (by decide))
  have hkey : ReadsTo (.blank tagName known) a.1.toList [] (.key tagName known a.1.toList) :=
    hname.reads (fun c hc => if_pos hc) (fun c hc _ => if_pos hc)
  have hequals : ReadsTo (.key tagName known a.1.toList) ['=',
      '"'] [] (.value tagName known a.1.toList '"' []) :=
    (ReadsTo.lead rfl).append (ReadsTo.lead rfl)
  -- There is no quotation mark in the value that would end it, and no bracket that would be out of
  -- place.
  have htext :
      ReadsTo (.value tagName known a.1.toList '"' []) a.2 []
      (.value tagName known a.1.toList '"' a.2) :=
    ReadsTo.gather (f := .value tagName known a.1.toList '"')
      (fun c hc _ => (if_neg (hvalue c hc).2).trans (if_neg (hvalue c hc).1)) []
  have hquote : ReadsTo (.value tagName known a.1.toList '"' a.2) ['"'] []
      (.behind tagName (known ++ [(a.1.toList, a.2)])) := ReadsTo.lead rfl
  have hall := hblank.append (hkey.append (hequals.append (htext.append hquote)))
  simpa [SvgNode.attributeText, concat] using hall

/-- **The attributes of a tag** are read in order. -/
theorem reads_attributes (h : AttributesHold IsQuotable attributes)
    (hplace : place.IsInTag tagName known) :
    ∃ next, next.IsInTag tagName (known ++ namedAttributes attributes) ∧
      ReadsTo place (attributes.flatMap SvgNode.attributeText) [] next := by
  induction attributes generalizing place known with
  | nil => exact ⟨place, by simpa [namedAttributes] using hplace, ReadsTo.nil place⟩
  | cons a attributes ih =>
    obtain ⟨hname, hvalue⟩ := h a List.mem_cons_self
    obtain ⟨next, hnext, hreads⟩ := ih (fun b hb => h b (List.mem_cons_of_mem _ hb))
      (isInTag_behind tagName (known ++ [(a.1.toList, a.2)]))
    refine ⟨next, ?_, (reads_attributeText hplace hname hvalue).append hreads⟩
    simpa [namedAttributes] using hnext

/-- The start of an element is read up to its last bracket. -/
theorem reads_openingText (hname : IsXmlName name) (h : AttributesHold IsQuotable attributes) :
    ∃ next, next.IsInTag name.toList (namedAttributes attributes) ∧
      ReadsTo .content (SvgNode.openingText name attributes) [] next := by
  have hstart : ReadsTo .content ['<'] [] .start := ReadsTo.lead rfl
  have hnamed : ReadsTo .start name.toList [] (.opening name.toList) := by
    refine hname.reads (fun c hc => ?_) (fun c hc _ => if_pos hc)
    -- What leads to the end of an element or to a declaration stands in no name.
    have hslash : c ≠ '/' := by rintro rfl; exact absurd hc (by decide)
    have hquery : c ≠ '?' := by rintro rfl; exact absurd hc (by decide)
    exact (if_neg hslash).trans ((if_neg hquery).trans (if_pos hc))
  obtain ⟨next, hnext, hattributes⟩ := reads_attributes h (isInTag_opening name.toList)
  refine ⟨next, hnext, ?_⟩
  have hall := hstart.append (hnamed.append hattributes)
  simpa [SvgNode.openingText, concat] using hall

/-- **The tag that begins an element.** -/
theorem reads_opening (hname : IsXmlName name) (h : AttributesHold IsQuotable attributes) :
    ReadsTo .content (SvgNode.openingText name attributes ++ ">".toList)
      [.tag (.opening name.toList (namedAttributes attributes))] .content := by
  obtain ⟨next, hnext, hreads⟩ := reads_openingText hname h
  exact hreads.append (ReadsTo.find (hnext '>' (by decide)))

/-- **The tag of an element without contents.** -/
theorem reads_empty (hname : IsXmlName name) (h : AttributesHold IsQuotable attributes) :
    ReadsTo .content (SvgNode.openingText name attributes ++ " />".toList)
      [.tag (.empty name.toList (namedAttributes attributes))] .content := by
  obtain ⟨next, hnext, hreads⟩ := reads_openingText hname h
  have hblank := hnext ' ' (by decide)
  have hend : ReadsTo (.blank name.toList (namedAttributes attributes)) ['/', '>']
      [.tag (.empty name.toList (namedAttributes attributes))] .content :=
    (ReadsTo.lead rfl).append (ReadsTo.find rfl)
  exact hreads.append ((ReadsTo.lead hblank).append hend)

/-- **The tag that ends an element.** -/
theorem reads_closingText (hname : IsXmlName name) :
    ReadsTo .content (SvgNode.closingText name) [.tag (.closing name.toList)] .content := by
  have hstart : ReadsTo .content ['<', '/'] [] (.closing []) :=
    (ReadsTo.lead rfl).append (ReadsTo.lead rfl)
  have hnamed : ReadsTo (.closing []) name.toList [] (.closing name.toList) := by
    refine ReadsTo.gather (f := .closing) (fun c hc _ => ?_) []
    have hc := hname.2 c hc
    have hbracket : c ≠ '>' := by rintro rfl; exact absurd hc (by decide)
    exact (if_neg hbracket).trans (if_pos hc)
  have hend : ReadsTo (.closing name.toList) ['>'] [.tag (.closing name.toList)] .content :=
    ReadsTo.find rfl
  have hall := hstart.append (hnamed.append hend)
  simpa [SvgNode.closingText, concat] using hall

end Tags

/-! ## Texts and tags -/

namespace XmlToken

/-- The tag that is found, if it is one. -/
def tag? : XmlToken → Option (XmlTag Text)
  | tag t => some t
  | character _ => none

/-- The characters up to the first tag. -/
def leadingText : List XmlToken → Text
  | character c :: rest => c :: leadingText rest
  | _ => []

/-- **The texts that are shown**: each stands right behind the tag of a text element. -/
def shownTexts : List XmlToken → List Text
  | [] => []
  | tag (.opening name _) :: rest =>
    if name = "text".toList then leadingText rest :: shownTexts rest else shownTexts rest
  | _ :: rest => shownTexts rest

/-- The characters that stand anywhere else. -/
def strayText : (shown : Bool) → List XmlToken → Text
  | _, [] => []
  | _, tag (.opening name _) :: rest => strayText (name = "text".toList) rest
  | _, tag _ :: rest => strayText false rest
  | true, character _ :: rest => strayText true rest
  | false, character c :: rest => c :: strayText false rest

/-- **What is found** has certain tags and shows certain texts, and there is nothing else but blanks
and ends of lines, whatever comes behind. -/
structure Shows (found : List XmlToken) (tags : List (XmlTag Text)) (texts : List Text) : Prop where
  /-- The tags. -/
  tags : found.filterMap tag? = tags
  /-- The texts. -/
  texts : ∀ rest, shownTexts (found ++ rest) = texts ++ shownTexts rest
  /-- The characters that stand anywhere else. -/
  stray : ∃ layout : Text, (∀ c ∈ layout, c = ' ' ∨ c = '\n') ∧
    ∀ rest, strayText false (found ++ rest) = layout ++ strayText false rest

/-- No tokens show nothing. -/
theorem Shows.nil : Shows [] [] [] := ⟨rfl, fun _ => rfl, [], nofun, fun _ => rfl⟩

/-- Tokens one behind the other show the tags and the texts of both. -/
theorem Shows.append {found more : List XmlToken} {tags moreTags : List (XmlTag Text)}
    {texts moreTexts : List Text}
    (h : Shows found tags texts) (hmore : Shows more moreTags moreTexts) :
    Shows (found ++ more) (tags ++ moreTags) (texts ++ moreTexts) := by
  obtain ⟨layout, hlayout, hstray⟩ := h.stray
  obtain ⟨moreLayout, hmoreLayout, hmoreStray⟩ := hmore.stray
  refine ⟨?_, fun rest => ?_, layout ++ moreLayout, fun c hc => ?_, fun rest => ?_⟩
  · rw [List.filterMap_append, h.tags, hmore.tags]
  · rw [List.append_assoc, h.texts, hmore.texts, List.append_assoc]
  · exact (List.mem_append.1 hc).elim (hlayout c) (hmoreLayout c)
  · rw [List.append_assoc, hstray, hmoreStray, List.append_assoc]

/-- A tag that begins no text element. -/
theorem Shows.tag {t : XmlTag Text} (h : ∀ attributes, t ≠ .opening "text".toList attributes) :
    Shows [.tag t] [t] [] := by
  refine ⟨rfl, fun rest => ?_, [], nofun, fun rest => ?_⟩
  · -- A tag that opens no text element asks for no characters.
    cases t with
    | opening name attributes =>
      have hname : name ≠ "text".toList := fun heq => h attributes (heq ▸ rfl)
      exact if_neg hname
    | _ => rfl
  · cases t with
    | opening name attributes =>
      have hname : name ≠ "text".toList := fun heq => h attributes (heq ▸ rfl)
      show strayText (decide (name = "text".toList)) rest = _
      rw [decide_eq_false hname]
      rfl
    | _ => rfl

/-- The blanks and the ends of lines between tags. -/
theorem Shows.layout {layout : Text} (h : ∀ c ∈ layout, c = ' ' ∨ c = '\n') :
    Shows (layout.map character) [] [] := by
  refine ⟨?_, fun rest => ?_, layout, h, fun rest => ?_⟩
  · simp [List.filterMap_map, Function.comp_def, tag?]
  · induction layout with
    | nil => rfl
    | cons c layout ih => exact ih fun d hd => h d (List.mem_cons_of_mem _ hd)
  · induction layout with
    | nil => rfl
    | cons c layout ih =>
      show c :: strayText false (layout.map character ++ rest) = _
      rw [ih fun d hd => h d (List.mem_cons_of_mem _ hd)]
      rfl

/-- **A text element** shows what stands between its tags. -/
theorem Shows.text (attributes : List (Text × Text)) (s : Text) :
    Shows (.tag (.opening "text".toList attributes) :: (s.map character
      ++ [.tag (.closing "text".toList)]))
      [.opening "text".toList attributes, .closing "text".toList] [s] := by
  -- One induction for each way in which the tokens are gone through: none of them stops before the
  -- closing tag.
  have hleading : ∀ (s : Text) (rest : List XmlToken),
      leadingText (s.map character ++ .tag (.closing "text".toList) :: rest) = s := by
    intro s rest
    induction s with
    | nil => rfl
    | cons c s ih => exact congrArg (c :: ·) ih
  have hshown : ∀ (s : Text) (rest : List XmlToken),
      shownTexts (s.map character ++ .tag (.closing "text".toList) :: rest) = shownTexts rest := by
    intro s rest
    induction s with
    | nil => rfl
    | cons c s ih => exact ih
  have hstray : ∀ (s : Text) (rest : List XmlToken),
      strayText true (s.map character ++ .tag (.closing "text".toList) :: rest)
      = strayText false rest := by
    intro s rest
    induction s with
    | nil => rfl
    | cons c s ih => exact ih
  refine ⟨?_, fun rest => ?_, [], nofun, fun rest => ?_⟩
  · simp [List.filterMap_map, Function.comp_def, tag?]
  · rw [List.cons_append, List.append_assoc, List.singleton_append, shownTexts, if_pos rfl,
      hleading, hshown]
    rfl
  · rw [List.cons_append, List.append_assoc, List.singleton_append]
    exact hstray s rest

end XmlToken

/-- **A text is read as tags and texts**, outside of tags before it and behind it. -/
def Writes (s : Text) (tags : List (XmlTag Text)) (texts : List Text) : Prop :=
  ∃ found, ReadsTo .content s found .content ∧ XmlToken.Shows found tags texts

/-- Texts one behind the other are written with the tags and the texts of both. -/
theorem Writes.append {s t : Text} {tags moreTags : List (XmlTag Text)}
    {texts moreTexts : List Text} (hs : Writes s tags texts) (ht : Writes t moreTags moreTexts) :
    Writes (s ++ t) (tags ++ moreTags) (texts ++ moreTexts) := by
  obtain ⟨found, hreads, hshows⟩ := hs
  obtain ⟨more, hreadsMore, hshowsMore⟩ := ht
  exact ⟨found ++ more, hreads.append hreadsMore, hshows.append hshowsMore⟩

/-- Blanks and ends of lines are read as nothing. -/
theorem writes_layout {layout : Text} (h : ∀ c ∈ layout, c = ' ' ∨ c = '\n') :
    Writes layout [] [] := by
  refine ⟨layout.map .character, ReadsTo.characters fun hmem => ?_, .layout h⟩
  rcases h '<' hmem with heq | heq <;> cases heq

/-! ## Trees -/

namespace SvgNode

section

variable {V : Type}

mutual

/-- **The tags of a tree**, in the order of the document. -/
def tags : SvgNode V → List (XmlTag V)
  | text attributes _ =>
    [.opening "text".toList (namedAttributes attributes), .closing "text".toList]
  | element name attributes [] => [.empty name.toList (namedAttributes attributes)]
  | element name attributes (node :: nodes) =>
    .opening name.toList (namedAttributes attributes) :: (tags node ++ tagsOf nodes)
      ++ [.closing name.toList]
  | group name attributes nodes =>
    .opening name.toList (namedAttributes attributes) :: tagsOf nodes ++ [.closing name.toList]

/-- The tags of some trees. -/
def tagsOf : List (SvgNode V) → List (XmlTag V)
  | [] => []
  | node :: nodes => tags node ++ tagsOf nodes

end

mutual

/-- **The texts that a tree shows**, in the order of the document. -/
def texts : SvgNode V → List Text
  | text _ words => [words]
  | element _ _ nodes => textsOf nodes
  | group _ _ nodes => textsOf nodes

/-- The texts of some trees. -/
def textsOf : List (SvgNode V) → List Text
  | [] => []
  | node :: nodes => texts node ++ textsOf nodes

end

mutual

/-- **A tree that can be read back**: its elements and attributes have names, those of text elements
apart, and what is said of the values of the attributes holds. -/
def Holds (p : V → Prop) : SvgNode V → Prop
  | text attributes _ => AttributesHold p attributes
  | element name attributes nodes =>
    (IsXmlName name ∧ name ≠ "text") ∧ AttributesHold p attributes ∧ AllHold p nodes
  | group name attributes nodes =>
    (IsXmlName name ∧ name ≠ "text") ∧ AttributesHold p attributes ∧ AllHold p nodes

/-- Trees all of which can be read back. -/
def AllHold (p : V → Prop) : List (SvgNode V) → Prop
  | [] => True
  | node :: nodes => Holds p node ∧ AllHold p nodes

end

/-- The tags of some nodes are those of each of them. -/
theorem tagsOf_eq_flatMap (nodes : List (SvgNode V)) : tagsOf nodes = nodes.flatMap tags := by
  induction nodes with
  | nil => rfl
  | cons node nodes ih => rw [tagsOf, ih, List.flatMap_cons]

/-- The texts of some nodes are those of each of them. -/
theorem textsOf_eq_flatMap (nodes : List (SvgNode V)) : textsOf nodes = nodes.flatMap texts := by
  induction nodes with
  | nil => rfl
  | cons node nodes ih => rw [textsOf, ih, List.flatMap_cons]

/-- A condition holds of some nodes when it holds of each of them. -/
theorem allHold_iff {p : V → Prop} {nodes : List (SvgNode V)} :
    AllHold p nodes ↔ ∀ node ∈ nodes, node.Holds p := by
  induction nodes with
  | nil => simp [AllHold]
  | cons node nodes ih => rw [AllHold, ih, List.forall_mem_cons]

end

section

variable {name : String} {attributes : List (String × Text)}

/-- The text of an opening tag is read as that tag. -/
theorem writes_opening (hname : IsXmlName name ∧ name ≠ "text")
    (h : AttributesHold IsQuotable attributes) :
    Writes (openingText name attributes ++ ">".toList)
      [.opening name.toList (namedAttributes attributes)] [] := by
  refine ⟨_, reads_opening hname.1 h, .tag fun others heq => hname.2 ?_⟩
  injection heq with htext
  exact String.toList_inj.1 htext

/-- The text of an empty element is read as that element. -/
theorem writes_empty (hname : IsXmlName name) (h : AttributesHold IsQuotable attributes) :
    Writes (openingText name attributes ++ " />".toList)
      [.empty name.toList (namedAttributes attributes)] [] :=
  ⟨_, reads_empty hname h, .tag nofun⟩

/-- The text of a closing tag is read as that tag. -/
theorem writes_closing (hname : IsXmlName name) :
    Writes (closingText name) [.closing name.toList] [] :=
  ⟨_, reads_closingText hname, .tag nofun⟩

/-- A text element is read as its tags, with the written form of its text between them. -/
theorem writes_text (h : AttributesHold IsQuotable attributes) (words : Text) :
    Writes (inlineText (text attributes words)) (text attributes words).tags [escapeXml words] := by
  have hname : IsXmlName "text" := by decide
  have hwords : ReadsTo .content (escapeXml words) ((escapeXml words).map .character) .content :=
    ReadsTo.characters fun hmem => (isQuotable_escapeXml words '<' hmem).1 rfl
  refine ⟨_, ?_, .text (namedAttributes attributes) (escapeXml words)⟩
  have hall := (reads_opening hname h).append (hwords.append (reads_closingText hname))
  simpa [inlineText, concat] using hall

end

/-- An element with tags around what stands in it. -/
theorem writes_around {name : String} {attributes : List (String × Text)} {s : Text}
    {tags : List (XmlTag Text)}
    {texts : List Text} (hname : IsXmlName name ∧ name ≠ "text")
      (h : AttributesHold IsQuotable attributes)
    (hs : Writes s tags texts) :
      Writes (concat [openingText name attributes, ">", s, closingText name])
      (.opening name.toList (namedAttributes attributes) :: tags
        ++ [.closing name.toList]) texts := by
  have hall := (writes_opening hname h).append (hs.append (writes_closing hname.1))
  simpa [concat] using hall

mutual

/-- **A tree on one line** is read as its tags and its texts. -/
theorem writes_inlineText : (node : SvgNode Text) → node.Holds IsQuotable →
    Writes node.inlineText node.tags (node.texts.map escapeXml)
  | text attributes words, h => writes_text h words
  | element name attributes [], h => writes_empty h.1.1 h.2.1
  | element name attributes (node :: nodes), h => by
    have hnodes := (writes_inlineText node h.2.2.1).append (writes_inlineTexts nodes h.2.2.2)
    have hall := writes_around h.1 h.2.1 hnodes
    simpa [inlineText, tags, texts, textsOf, concat] using hall
  | group name attributes nodes, h => writes_around h.1 h.2.1 (writes_inlineTexts nodes h.2.2)

/-- Nodes in one line are written one behind the other. -/
theorem writes_inlineTexts : (nodes : List (SvgNode Text)) → AllHold IsQuotable nodes →
    Writes (inlineTexts nodes) (tagsOf nodes) ((textsOf nodes).map escapeXml)
  | [], _ => ⟨[], ReadsTo.nil _, .nil⟩
  | node :: nodes, h => by
    have hall := (writes_inlineText node h.1).append (writes_inlineTexts nodes h.2)
    simpa [inlineTexts, tagsOf, textsOf] using hall

end

/-- A line that stands between others. -/
theorem writes_line {s : Text} {tags : List (XmlTag Text)} {texts : List Text} (depth : Nat)
    (h : Writes s tags texts) :
      Writes (List.replicate (2 * depth) ' ' ++ s ++ ['\n']) tags texts := by
  have hindent : Writes (List.replicate (2 * depth) ' ') [] [] :=
    writes_layout fun c hc => .inl (List.eq_of_mem_replicate hc)
  have hnewline : Writes ['\n'] [] [] := writes_layout fun c hc => .inr (List.mem_singleton.1 hc)
  simpa using (hindent.append h).append hnewline

mutual

/-- **A tree on lines of its own** is read as its tags and its texts. -/
theorem writes_lines : (node : SvgNode Text) → (depth : Nat) → node.Holds IsQuotable →
    Writes ((node.lines depth).flatMap (· ++ ['\n'])) node.tags (node.texts.map escapeXml)
  | text attributes words, depth, h => by
    have hline := writes_line depth (writes_inlineText (text attributes words) h)
    simpa [lines] using hline
  | element name attributes nodes, depth, h => by
    have hline := writes_line depth (writes_inlineText (element name attributes nodes) h)
    simpa [lines] using hline
  | group name attributes nodes, depth, h => by
    -- The tags of a group have lines of their own; the lines of its contents stand between them.
    have hfirst := writes_line depth (writes_opening h.1 h.2.1)
    have hlast := writes_line depth (writes_closing h.1.1)
    have hall := hfirst.append ((writes_linesOf nodes (depth + 1) h.2.2).append hlast)
    simpa [lines, tags, texts, concat] using hall

/-- Nodes in lines of their own are written one behind the other. -/
theorem writes_linesOf : (nodes : List (SvgNode Text)) → (depth : Nat) → AllHold IsQuotable nodes →
    Writes ((linesOf depth nodes).flatMap (· ++ ['\n'])) (tagsOf nodes)
      ((textsOf nodes).map escapeXml)
  | [], _, _ => ⟨[], ReadsTo.nil _, .nil⟩
  | node :: nodes, depth, h => by
    have hall := (writes_lines node depth h.1).append (writes_linesOf nodes depth h.2)
    simpa [linesOf, tagsOf, textsOf] using hall

end

/-- The contents of the declaration that a document begins with. -/
def xmlDeclaration : Text := "xml version=\"1.0\" encoding=\"UTF-8\""

/-- The first line is the declaration in its marks. -/
theorem firstLine_eq : firstLine = ['<', '?'] ++ ((xmlDeclaration ++ ['?']) ++ ['>']) := by decide

/-- The first line is read as the declaration. -/
theorem writes_firstLine : Writes firstLine [.declaration xmlDeclaration] [] := by
  -- The contents are kept abstract: a text as long as this one is not to be unfolded.
  have hdeclaration : ∀ contents : Text, (∀ c ∈ contents ++ ['?'], c ≠ '>') →
      Writes (['<', '?'] ++ ((contents ++ ['?']) ++ ['>'])) [.declaration contents] [] := by
    intro contents h
    have hstart : ReadsTo .content ['<', '?'] [] (.declaration []) :=
      (ReadsTo.lead rfl).append (ReadsTo.lead rfl)
    have hgather :
        ReadsTo (.declaration []) (contents ++ ['?']) [] (.declaration (contents ++ ['?'])) :=
      ReadsTo.gather (f := .declaration) (fun c hc _ => if_neg fun hend => h c hc hend.1) []
    have hstep : (XmlPlace.declaration (contents ++ ['?'])).step '>'
        = some (some (.tag (.declaration contents)), .content) := by simp [XmlPlace.step]
    exact ⟨_, hstart.append (hgather.append (ReadsTo.find hstep)), .tag nofun⟩
  have hchars : (xmlDeclaration ++ ['?']).all (· != '>') = true := by decide
  rw [firstLine_eq]
  exact hdeclaration xmlDeclaration fun c hc => by simpa using List.all_eq_true.1 hchars c hc

/-- **The document of a tree** is read as its tags and its texts. -/
theorem writes_document {root : SvgNode Text} (h : root.Holds IsQuotable) :
    Writes root.document (.declaration xmlDeclaration :: root.tags) (root.texts.map escapeXml) := by
  have hnewline : Writes ['\n'] [] [] := writes_layout fun c hc => .inr (List.mem_singleton.1 hc)
  rw [document, List.flatMap_cons]
  exact (writes_firstLine.append hnewline).append (writes_lines root 0 h)

end SvgNode

/-- A document is read to its end. -/
theorem Writes.exists_readXml {s : Text} {tags : List (XmlTag Text)} {texts : List Text}
    (h : Writes s tags texts) :
    ∃ found, readXml s = some found ∧ XmlToken.Shows found tags texts := by
  obtain ⟨found, hreads, hshows⟩ := h
  refine ⟨found, ?_, hshows⟩
  have hread := hreads []
  rw [List.append_nil] at hread
  rw [readXml, hread]
  simp [readFrom]

end SchemaDiagram

import SchemaDiagram.Proofs.DrawnValues

/-! # The outline of a drawing

What elements a drawing has, and which attributes, depends on how much there is to draw and not on
what is written there.

* **`SceneShape`**, **`SceneShape.outline`** — how much there is in a scene, and the tags that come
  of it.
* **`Scene.texts`**, **`Scene.coordinates`** — the texts and the coordinates that are written.
* **`SvgNode.Draws`**, **`draws_drawing`** — what nodes come to, and the whole drawing.
* **`exists_svgText_iff`** — when a scene is drawn.
* **`svgText_depicts`** — scenes of the same shape have the same outline, and their texts can be
  read back. -/

namespace SchemaDiagram

/-! ## Shapes -/

/-- **How much there is in a scene.** -/
structure SceneShape where
  /-- Whether there is an error in place of the diagram. -/
  isError : Bool
  /-- Whether the grid is drawn. -/
  hasGrid : Bool
  /-- The tables; for every field whether it is a primary key. -/
  tables : List (List Bool)
  /-- How many lines the sticky notes have. -/
  notes : List Nat
  /-- The connections; whether there are glyphs at their starts and at their ends. -/
  paths : List (Bool × Bool)
  /-- How many markers there are. -/
  markers : Nat
deriving DecidableEq, Repr

namespace SceneShape

/-- The start of an element, by the names of its attributes. -/
def opened (name : String) (keys : List String) : XmlTag Unit :=
  .opening name.toList (keys.map fun key => (key.toList, ()))

/-- An element without contents, by the names of its attributes. -/
def single (name : String) (keys : List String) : XmlTag Unit :=
  .empty name.toList (keys.map fun key => (key.toList, ()))

/-- The end of an element. -/
def closed (name : String) : XmlTag Unit := .closing name.toList

/-- The tags of a text. -/
def textTags (keys : List String) : List (XmlTag Unit) := [opened "text" keys, closed "text"]

/-- The attributes of a rectangle. -/
def rectKeys : List String := ["x", "y", "width", "height"]

/-- The tags of the background grid. -/
def gridTags : List (XmlTag Unit) :=
  [opened "defs" [], opened "pattern" ["id", "width", "height", "patternUnits"],
    single "path" ["d", "fill", "stroke", "stroke-width"], closed "pattern", closed "defs",
    single "rect" (rectKeys ++ ["fill"])]

/-- The tags of a field; the name of a primary key is in bold. -/
def fieldTags (isKey : Bool) : List (XmlTag Unit) :=
  textTags (["id", "x", "y", "font-family", "font-size"] ++ (if isKey then ["font-weight"]
    else []) ++ ["fill"]) ++
    textTags ["x", "y", "text-anchor", "font-family", "font-size", "fill"]

/-- The tags of a table. -/
def tableTags (fields : List Bool) : List (XmlTag Unit) :=
  opened "g" ["class", "id"] ::
    ([single "rect" (rectKeys ++ ["fill", "stroke", "stroke-width"]),
      single "rect" (rectKeys ++ ["fill", "stroke", "stroke-width"])] ++
      textTags ["x", "y", "font-family", "font-size", "font-weight",
        "fill"] ++ fields.flatMap fieldTags) ++
    [closed "g"]

/-- The tags of a sticky note; one without lines shows an empty one. -/
def noteTags (lines : Nat) : List (XmlTag Unit) :=
  opened "g" ["class", "id"] ::
    (single "rect" (rectKeys ++ ["fill", "stroke"]) ::
      (List.replicate (max lines 1)
      (textTags ["x", "y", "font-family", "font-size", "fill"])).flatten) ++
    [closed "g"]

/-- The tags of a glyph. -/
def glyphTags : List (XmlTag Unit) :=
  textTags ["x", "y", "text-anchor", "font-family", "font-size", "font-weight", "fill"]

/-- The tags of a connection with its glyphs. -/
def pathTags (labels : Bool × Bool) : List (XmlTag Unit) :=
  single "path" ["class", "id", "d", "fill", "stroke", "stroke-width"] ::
    ((if labels.1 then glyphTags else []) ++ if labels.2 then glyphTags else [])

/-- The tag of a marker. -/
def markerTag : XmlTag Unit := single "circle" ["cx", "cy", "r", "fill"]

/-- The tags of an error. -/
def errorTags : List (XmlTag Unit) :=
  textTags ["class", "x", "y", "font-family", "font-size", "fill"]

/-- The tags of what is drawn on the canvas. -/
def contentTags (shape : SceneShape) : List (XmlTag Unit) :=
  if shape.isError then errorTags
  else (if shape.hasGrid then gridTags
    else []) ++ shape.notes.flatMap noteTags ++ shape.paths.flatMap pathTags ++
    List.replicate shape.markers markerTag ++ shape.tables.flatMap tableTags

/-- The tags of a drawing. -/
def drawingTags (shape : SceneShape) : List (XmlTag Unit) :=
  opened "svg" ["xmlns", "width", "height",
    "viewBox"] :: (single "rect" (rectKeys ++ ["fill"]) :: shape.contentTags) ++
    [closed "svg"]

/-- **The tags of a document**, with the names of their attributes. -/
def outline (shape : SceneShape) : List (XmlTag Unit) :=
  .declaration SvgNode.xmlDeclaration :: shape.drawingTags

end SceneShape

namespace Scene

/-- The shape of a scene. -/
def shape (s : Scene) : SceneShape :=
  { isError := s.error.isSome
    hasGrid := s.display.showGrid
    tables := s.tables.map fun box => box.table.fields.map (·.isPrimaryKey)
    notes := s.notes.map fun box => (Text.lines box.note.content).length
    paths := s.routing.paths.map fun p => (p.startLabel.isSome, p.endLabel.isSome)
    markers := s.routing.anchors.length }

/-- The lines that a sticky note shows: those of its content, or an empty one. -/
def shownLines (content : Text) : List Text :=
  if Text.lines content = [] then [[]] else Text.lines content

/-- **The texts that a scene shows**, in the order of the drawing. -/
def texts (s : Scene) : List Text :=
  match s.error with
  | some error => ["Error: ".toList ++ error]
  | none =>
    s.notes.flatMap (fun box => shownLines box.note.content) ++
      s.routing.paths.flatMap (fun p => (p.startLabel.toList ++ p.endLabel.toList).map (·.text)) ++
      s.tables.flatMap fun box => box.table.name :: box.table.fields.flatMap fun f =>
        [Drawing.fieldTitle f, f.type]

/-- **The coordinates that are written** when a scene is drawn. -/
def coordinates (layout : LayoutConfig Float) (s : Scene) : List Mixed :=
  (drawing layout s).values.flatMap (·.coordinates)

end Scene

/-! ## What is drawn -/

namespace SvgNode

open SceneShape

section

variable {V : Type} {p : V → Prop} {name : String} {v : V} {attributes more : List (String × V)}

@[simp] theorem attributesHold_nil : AttributesHold p [] := nofun

/-- A condition holds of some attributes when it holds of the first one and of the others. -/
@[simp] theorem attributesHold_cons :
    AttributesHold p ((name, v) :: attributes) ↔
    (IsXmlName name ∧ p v) ∧ AttributesHold p attributes :=
  List.forall_mem_cons

/-- A condition holds of two lists of attributes when it holds of each. -/
@[simp] theorem attributesHold_append :
    AttributesHold p (attributes ++ more) ↔ AttributesHold p attributes ∧ AttributesHold p more :=
  List.forall_mem_append

end

/-- **What some nodes come to**: their tags with the names of their attributes, the texts that they
show, and that they can be read back once they are written. -/
structure Draws (nodes : List (SvgNode SvgValue)) (outline : List (XmlTag Unit))
    (texts : List Text) : Prop where
  /-- The tags. -/
  outline : (tagsOf nodes).map (·.outline) = outline
  /-- The texts. -/
  texts : textsOf nodes = texts
  /-- The names are names, and the values can pass for no tags. -/
  safe : AllHold SvgValue.IsSafe nodes

namespace Draws

variable {nodes more : List (SvgNode SvgValue)} {outline moreOutline : List (XmlTag Unit)}
  {texts moreTexts : List Text} {name : String} {attributes : List (String × SvgValue)}

/-- Nothing is drawn by no nodes. -/
theorem nil : Draws [] [] [] := ⟨rfl, rfl, trivial⟩

/-- Nodes are drawn one behind the other. -/
theorem append (h : Draws nodes outline texts) (hmore : Draws more moreOutline moreTexts) :
    Draws (nodes ++ more) (outline ++ moreOutline) (texts ++ moreTexts) := by
  refine ⟨?_, ?_, ?_⟩
  · rw [tagsOf_eq_flatMap, List.flatMap_append, List.map_append, ← tagsOf_eq_flatMap,
      ← tagsOf_eq_flatMap, h.outline, hmore.outline]
  · rw [textsOf_eq_flatMap, List.flatMap_append, ← textsOf_eq_flatMap, ← textsOf_eq_flatMap,
      h.texts, hmore.texts]
  · rw [allHold_iff, List.forall_mem_append]
    exact ⟨allHold_iff.1 h.safe, allHold_iff.1 hmore.safe⟩

/-- A node is drawn before the others. -/
theorem cons {node : SvgNode SvgValue} (h : Draws [node] outline texts)
    (hmore : Draws more moreOutline moreTexts) :
    Draws (node :: more) (outline ++ moreOutline) (texts ++ moreTexts) := h.append hmore

/-- What is drawn may be written in another way. -/
theorem congr (h : Draws nodes outline texts) (houtline : outline = moreOutline)
    (htexts : texts = moreTexts) :
    Draws nodes moreOutline moreTexts := houtline ▸ htexts ▸ h

/-- **Items that are drawn one after another.** -/
theorem flatMap {α : Type} {items : List α} {draw : α → List (SvgNode SvgValue)}
    {outline : α → List (XmlTag Unit)}
    {texts : α → List Text} (h : ∀ item ∈ items, Draws (draw item) (outline item) (texts item)) :
    Draws (items.flatMap draw) (items.flatMap outline) (items.flatMap texts) := by
  induction items with
  | nil => exact nil
  | cons item items ih =>
    exact (h item List.mem_cons_self).append (ih fun other hother =>
      h other (List.mem_cons_of_mem _ hother))

/-- Items that are drawn as one node each. -/
theorem map {α : Type} {items : List α} {draw : α → SvgNode SvgValue}
    {outline : α → List (XmlTag Unit)}
    {texts : α → List Text} (h : ∀ item ∈ items, Draws [draw item] (outline item) (texts item)) :
    Draws (items.map draw) (items.flatMap outline) (items.flatMap texts) := by
  rw [List.map_eq_flatMap]
  exact flatMap h

/-- A text. -/
theorem text (h : AttributesHold SvgValue.IsSafe attributes) (words : Text) :
    Draws [.text attributes words] (textTags (attributes.map (·.1))) [words] := by
  refine ⟨?_, rfl, h, trivial⟩
  simp [tagsOf, tags, textTags, opened, closed, namedAttributes]

/-- An element without contents. -/
theorem single (hname : IsXmlName name ∧ name ≠ "text")
    (h : AttributesHold SvgValue.IsSafe attributes) :
    Draws [.element name attributes []] [SceneShape.single name (attributes.map (·.1))] [] := by
  refine ⟨?_, rfl, ⟨hname, h, trivial⟩, trivial⟩
  simp [tagsOf, tags, SceneShape.single, namedAttributes]

/-- Tags around what is drawn between them. -/
theorem around {node : SvgNode SvgValue} (hnodes : Draws nodes outline texts)
    (htags : node.tags
      = .opening name.toList (namedAttributes attributes) :: tagsOf nodes ++ [.closing name.toList])
    (htexts : node.texts = textsOf nodes) (hsafe : node.Holds SvgValue.IsSafe) :
    Draws [node] (opened name (attributes.map (·.1)) :: outline ++ [closed name]) texts := by
  refine ⟨?_, ?_, hsafe, trivial⟩
  · rw [← hnodes.outline, tagsOf, tagsOf, List.append_nil, htags]
    simp [opened, closed, namedAttributes]
  · rw [← hnodes.texts, textsOf, textsOf, List.append_nil, htexts]

/-- An element with contents. -/
theorem element {node : SvgNode SvgValue} (hname : IsXmlName name ∧ name ≠ "text")
    (h : AttributesHold SvgValue.IsSafe attributes) (hnodes : Draws (node :: nodes) outline texts) :
    Draws [.element name attributes (node :: nodes)]
      (opened name (attributes.map (·.1)) :: outline ++ [closed name]) texts :=
  hnodes.around rfl rfl ⟨hname, h, hnodes.safe⟩

/-- A group. -/
theorem group (hname : IsXmlName name ∧ name ≠ "text")
    (h : AttributesHold SvgValue.IsSafe attributes) (hnodes : Draws nodes outline texts) :
    Draws [.group name attributes nodes]
      (opened name (attributes.map (·.1)) :: outline ++ [closed name]) texts :=
  hnodes.around rfl rfl ⟨hname, h, hnodes.safe⟩

end Draws

end SvgNode

namespace Drawing

open SceneShape SvgNode

variable (theme : Theme)

/-- A fixed value is safe when it may stand in an attribute. -/
@[simp] theorem isSafe_fixed_iff {s : String} : (fixed s).IsSafe ↔ IsQuotable s.toList :=
  SvgValue.isSafe_plain_iff

@[simp] theorem isSafe_sans : sans.IsSafe := isSafe_fixed_iff.2 (by decide)

@[simp] theorem isSafe_mono : mono.IsSafe := isSafe_fixed_iff.2 (by decide)

/-- A color is safe, whether it is a fixed one or chosen by the user. -/
theorem isSafe_colorOr {base : String} (h : IsQuotable base.toList) (color : Option Text) :
    (colorOr color base).IsSafe := by
  unfold colorOr
  split
  · exact isSafe_fixed_iff.2 h
  · exact isSafe_fixed_iff.2 h
  · exact SvgValue.isSafe_words _

/-- The place and the size of a rectangle are safe. -/
theorem attributesHold_rectAttributes (x y width height : Mixed) :
    AttributesHold SvgValue.IsSafe (rectAttributes x y width height) := by
  simp +decide [rectAttributes]

/-- A message is drawn with its text. -/
theorem draws_message (error : Text) :
    Draws [message theme.palette error] errorTags ["Error: ".toList ++ error] := by
  have hcolor : IsQuotable theme.palette.error.toList := by cases theme <;> decide
  exact .text (by simp +decide [hcolor]) _

/-- A grid is drawn without texts. -/
theorem draws_grid (cell : Int) (width height : Mixed) :
    Draws (grid cell width height theme.palette) gridTags [] := by
  have hcolor : IsQuotable theme.palette.grid.toList := by cases theme <;> decide
  have hcell : IsQuotable (Text.ofInt cell) := isQuotable_of_numeralChars (mem_ofInt cell).2
  have hpath : IsQuotable (concat ["M ", Text.ofInt cell, " 0 L 0 0 0 ", Text.ofInt cell]) := by
    simpa [concat] using ((by decide : IsQuotable "M ".toList).append hcell).append
      ((by decide : IsQuotable " 0 L 0 0 0 ".toList).append hcell)
  exact .append
    (.element (by decide) attributesHold_nil (.element (by decide) (by simp +decide [hcell])
    (.single (by decide) (by simpa +decide [hcolor] using hpath))))
      (.single (by decide) (by simp +decide [attributesHold_rectAttributes]))

/-- A row of a table is drawn with the title and the type of its field. -/
theorem draws_fieldRow (layout : LayoutConfig Mixed) (box : TableBox) (f : Field) (row : Nat) :
    Draws (fieldRow layout theme.palette box f row) (fieldTags f.isPrimaryKey)
      [fieldTitle f, f.type] := by
  have hname : IsQuotable theme.palette.rowText.toList := by cases theme <;> decide
  have htype : IsQuotable theme.palette.typeText.toList := by cases theme <;> decide
  rw [fieldRow, fieldTags]
  cases f.isPrimaryKey with
  | true => exact .append (.text (by simp +decide [hname]) _) (.text (by simp +decide [htype]) _)
  | false => exact .append (.text (by simp +decide [hname]) _) (.text (by simp +decide [htype]) _)

/-- A table is drawn with its name and, row by row, the titles and types of its fields. -/
theorem draws_table (layout : LayoutConfig Mixed) (box : TableBox) :
    Draws [table layout theme.palette box] (tableTags (box.table.fields.map (·.isPrimaryKey)))
      (box.table.name :: box.table.fields.flatMap fun f => [fieldTitle f, f.type]) := by
  have hfill : IsQuotable theme.palette.tableFill.toList := by cases theme <;> decide
  have hstroke : IsQuotable theme.palette.tableStroke.toList := by cases theme <;> decide
  have hheader : IsQuotable theme.palette.headerFill.toList := by cases theme <;> decide
  have htext : IsQuotable theme.palette.headerText.toList := by cases theme <;> decide
  -- The row of a field is needed for where it stands only.
  have hrows : Draws
      (box.table.fields.zipIdx.flatMap fun entry =>
        fieldRow layout theme.palette box entry.1 entry.2)
      ((box.table.fields.map (·.isPrimaryKey)).flatMap fieldTags)
      (box.table.fields.flatMap fun f => [fieldTitle f, f.type]) := by
    rw [List.flatMap_map]
    nth_rewrite 2 3 [← List.zipIdx_map_fst 0 box.table.fields]
    rw [List.flatMap_map, List.flatMap_map]
    exact .flatMap fun entry _ => draws_fieldRow theme layout box entry.1 entry.2
  rw [table]
  -- The box, the header and the name stand before the rows.
  refine .congr
    (.group (by decide) ?_ (.cons (.single (by decide) ?_) (.cons (.single (by decide) ?_)
    (.cons (.text ?_ _) hrows)))) ?_ rfl
  · simp +decide
  · simp +decide [attributesHold_rectAttributes, hfill, hstroke]
  · simp +decide [attributesHold_rectAttributes, isSafe_colorOr hheader, hstroke]
  · simp +decide [htext]
  · rfl

/-- A sticky note shows its lines one below the other. -/
theorem note_eq (box : NoteBox) : note box
    = .group "g" [("class", fixed "sticky-note"), ("id", .words (noteAnchor box.note.id))]
      (.element "rect" (rectAttributes box.rect.x box.rect.y box.rect.width box.rect.height ++
        [("fill", .words box.note.color), ("stroke", fixed "#d4c36a")]) [] ::
        noteLines (box.rect.x + whole 10) (box.rect.y + whole 20)
        (Scene.shownLines box.note.content)) := by
  rw [note, Scene.shownLines]
  cases Text.lines box.note.content <;> rfl

/-- Each line of a note is drawn in a text of its own. -/
theorem draws_noteLines (x y : Mixed) (lines : List Text) : Draws (noteLines x y lines)
    (List.replicate lines.length
      (textTags ["x", "y", "font-family", "font-size", "fill"])).flatten lines := by
  induction lines generalizing y with
  | nil => exact .nil
  | cons line lines ih => exact .append (.text (by simp +decide) line) (ih _)

/-- A note is drawn with the lines of it that are shown. -/
theorem draws_note (box : NoteBox) :
    Draws [note box] (noteTags (Text.lines box.note.content).length)
      (Scene.shownLines box.note.content) := by
  -- An empty note is shown with one empty line.
  have hlines : (Scene.shownLines box.note.content).length
      = max (Text.lines box.note.content).length 1 := by
    rw [Scene.shownLines]
    cases Text.lines box.note.content with
    | nil => rfl
    | cons line lines => simp
  have hnote :=
    draws_noteLines (box.rect.x + whole 10) (box.rect.y + whole 20)
    (Scene.shownLines box.note.content)
  rw [hlines] at hnote
  rw [note_eq]
  exact .group (by decide) (by simp +decide)
    (.append (.single (by decide) (by simp +decide [attributesHold_rectAttributes])) hnote)

/-- A glyph is drawn with its text. -/
theorem draws_glyph (l : ConnectionLabel Mixed) :
    Draws [glyph theme.palette l] glyphTags [l.text] := by
  have hcolor : IsQuotable theme.palette.label.toList := by cases theme <;> decide
  exact .text (by simp +decide [hcolor]) l.text

/-- The key of a path may stand in an attribute. -/
theorem isQuotable_key (p : ConnectionPath Mixed) : IsQuotable p.key := by
  rw [ConnectionPath.key, Connection.key, pairKey]
  simpa [concat] using ((by decide : IsQuotable "rel-".toList).append (isQuotable_ofNat _)).append
    ((by decide : IsQuotable "-".toList).append (isQuotable_ofNat _))

/-- A path is drawn with the labels of both ends. -/
theorem draws_connection (p : ConnectionPath Mixed) :
    Draws (connection theme.palette p) (pathTags (p.startLabel.isSome, p.endLabel.isSome))
      ((p.startLabel.toList ++ p.endLabel.toList).map (·.text)) := by
  have hcolor : IsQuotable theme.palette.line.toList := by cases theme <;> decide
  rw [connection]
  refine .congr (.cons (.single (by decide) ?_) (.map fun l _ => draws_glyph theme l)) ?_ ?_
  · simp +decide [isQuotable_key, isSafe_colorOr hcolor]
  -- Which glyphs there are shows once it is known which labels there are.
  · cases p.startLabel <;> cases p.endLabel <;> rfl
  · cases p.startLabel <;> cases p.endLabel <;> rfl

/-- A marker is drawn without a text. -/
theorem draws_marker (m : AnchorMarker Mixed) : Draws [marker theme.palette m] [markerTag] [] := by
  have hcolor : IsQuotable theme.palette.line.toList := by cases theme <;> decide
  exact .single (by decide) (by simp +decide [hcolor])

/-- **What is drawn on the canvas** comes to the tags of the shape and to the texts of the scene. -/
theorem draws_contents (layout : LayoutConfig Mixed) (s : Scene) :
    Draws (contents layout s) s.shape.contentTags s.texts := by
  rw [contents, SceneShape.contentTags, Scene.texts, Scene.shape]
  cases s.error with
  | some error => exact draws_message s.display.theme error
  | none =>
    -- The parts follow one another, those that lie in front last.
    have hgrid :
      Draws (if s.display.showGrid then grid s.display.gridSize (size s).1
      (size s).2 s.display.theme.palette
        else []) (if s.display.showGrid then gridTags else []) [] := by
      cases s.display.showGrid with
      | true => exact draws_grid s.display.theme s.display.gridSize (size s).1 (size s).2
      | false => exact .nil
    have hnotes : Draws (s.notes.map note) _ _ := .map fun box _ => draws_note box
    have hpaths : Draws (s.routing.paths.flatMap (connection s.display.theme.palette)) _ _ :=
      .flatMap fun p _ => draws_connection s.display.theme p
    have hmarkers : Draws (s.routing.anchors.map (marker s.display.theme.palette)) _ _ :=
      .map fun m _ => draws_marker s.display.theme m
    have htables : Draws (s.tables.map (table layout s.display.theme.palette)) _ _ :=
      .map fun box _ => draws_table s.display.theme layout box
    refine .congr ((((hgrid.append hnotes).append hpaths).append hmarkers).append htables) ?_ ?_
    · have hmarkerTags : s.routing.anchors.flatMap (fun _ => [markerTag])
          = List.replicate s.routing.anchors.length markerTag := by
        rw [← List.map_eq_flatMap, List.map_const']
      simp [List.flatMap_map, hmarkerTags]
    · simp

end Drawing

/-- **A drawing** comes to the tags of the shape and to the texts of the scene. -/
theorem draws_drawing (layout : LayoutConfig Float) (s : Scene) :
    SvgNode.Draws [drawing layout s] s.shape.drawingTags s.texts := by
  have hcolor : IsQuotable s.display.theme.palette.background.toList := by
    cases s.display.theme <;> decide
  rw [drawing]
  refine .congr
    (.group (by decide) ?_ (.cons (.single (by decide) ?_) (Drawing.draws_contents _ s))) ?_ rfl
  · simp +decide
  · simp +decide [Drawing.attributesHold_rectAttributes, hcolor]
  · rfl

/-! ## Documents -/

/-- **A scene can be drawn** if all coordinates can be written. -/
def Scene.IsDrawable (layout : LayoutConfig Float) (s : Scene) : Prop :=
  ∀ a ∈ s.coordinates layout, a.IsWritable

instance (layout : LayoutConfig Float) (s : Scene) : Decidable (s.IsDrawable layout) :=
  List.decidableBAll Mixed.IsWritable (s.coordinates layout)

/-- **A scene is drawn** just if it can be. -/
theorem exists_svgText_iff {layout : LayoutConfig Float} {s : Scene} :
    (∃ document, svgText layout s = .ok document) ↔ s.IsDrawable layout := by
  have hvalues : (∃ root, (drawing layout s).mapValues SvgValue.text = .ok root) ↔
      s.IsDrawable layout := by
    rw [SvgNode.exists_mapValues_iff, Scene.IsDrawable, Scene.coordinates, List.forall_mem_flatMap]
    exact forall₂_congr fun v _ => SvgValue.exists_text_iff
  rw [← hvalues]
  exact exists_bind_iff

/-- **What a reader finds in a document**: tags with certain names, and texts that are certain texts
once their written forms are read. There is nothing else in it but blanks and ends of lines. -/
def Depicts (document : Text) (outline : List (XmlTag Unit)) (texts : List Text) : Prop :=
  ∃ found, readXml document = some found ∧
    (found.filterMap XmlToken.tag?).map (·.outline) = outline ∧
    (XmlToken.shownTexts found).map unescapeXml = texts ∧
    ∀ c ∈ XmlToken.strayText false found, c = ' ' ∨ c = '\n'

/-- **The document of a scene** is read as the tags of its shape and as its texts. -/
theorem depicts_of_svgText {layout : LayoutConfig Float} {s : Scene} {document : Text}
    (h : svgText layout s = .ok document) : Depicts document s.shape.outline s.texts := by
  obtain ⟨root, hroot, h⟩ := bind_eq_ok_iff.1 h
  obtain rfl := Except.ok.inj h
  have himage := SvgNode.isImage_of_mapValues _ _ hroot
  have hdraws := draws_drawing layout s
  -- What is said of the drawing is kept where its values are calculated.
  have hquotable : root.Holds IsQuotable :=
    himage.holds (fun v t ht hsafe => hsafe t ht) hdraws.safe.1
  have htags : root.tags.map (·.outline) = s.shape.drawingTags := by
    rw [himage.outline, ← hdraws.outline, SvgNode.tagsOf_eq_flatMap, List.flatMap_singleton]
  have htexts : root.texts = s.texts := by
    rw [himage.texts, ← hdraws.texts, SvgNode.textsOf_eq_flatMap, List.flatMap_singleton]
  obtain ⟨found, hread, hshows⟩ := (SvgNode.writes_document hquotable).exists_readXml
  obtain ⟨blanks, hblanks, hstray⟩ := hshows.stray
  refine ⟨found, hread, ?_, ?_, ?_⟩
  · rw [hshows.tags, List.map_cons, htags]
    rfl
  · have hshown := hshows.texts []
    rw [List.append_nil] at hshown
    have hread : unescapeXml ∘ escapeXml = id := funext unescapeXml_escapeXml
    rw [hshown, htexts, XmlToken.shownTexts, List.append_nil, List.map_map, hread, List.map_id]
  · have hrest := hstray []
    rw [List.append_nil] at hrest
    rw [hrest]
    simpa [XmlToken.strayText] using hblanks

/-- **The texts of a scene have no part in the structure of its document.** A scene is drawn just if
its coordinates can be written. The documents of two scenes of the same shape are read as the same
tags with the same names of attributes, and their texts as those of the scenes, once their written
forms are read. -/
theorem svgText_depicts (layout layout' : LayoutConfig Float) {s s' : Scene}
    (hshape : s.shape = s'.shape) :
    ((∃ document, svgText layout s = .ok document) ↔ s.IsDrawable layout) ∧
      (s.IsDrawable layout → s'.IsDrawable layout' → ∃ document document',
        svgText layout s = .ok document ∧ svgText layout' s' = .ok document' ∧
          Depicts document s.shape.outline s.texts ∧
          Depicts document' s.shape.outline s'.texts) := by
  refine ⟨exists_svgText_iff, fun hs hs' => ?_⟩
  obtain ⟨document, hdocument⟩ := exists_svgText_iff.2 hs
  obtain ⟨document', hdocument'⟩ := exists_svgText_iff.2 hs'
  refine ⟨document, document', hdocument, hdocument', depicts_of_svgText hdocument, ?_⟩
  rw [hshape]
  exact depicts_of_svgText hdocument'

/-- A scene with one sticky note. -/
def Scene.ofNote (content : Text) (x width : Int) : Scene :=
  let rect : Rect Mixed := ⟨.whole x, .whole 0, .whole width, .whole 100⟩
  { blank .default with
    notes :=
      [⟨⟨"n", "n", content, rect.x, rect.y, rect.width, some rect.height, "#fff9c4"⟩, rect⟩] }

/-- A sticky note with markup on it has the outline of one with words on it. -/
theorem svgText_depicts_markup : ∃ document document',
    svgText .default (.ofNote "</text><g id=\"x\">&lt;" 10 200) = .ok document ∧
      svgText .default (.ofNote "some words" 50 90) = .ok document' ∧
      Depicts document
        (Scene.ofNote "</text><g id=\"x\">&lt;" 10 200).shape.outline ["</text><g id=\"x\">&lt;"] ∧
      Depicts document' (Scene.ofNote "</text><g id=\"x\">&lt;" 10 200).shape.outline
        ["some words"] :=
  (svgText_depicts .default .default (by decide +kernel)).2 (by decide +kernel) (by decide +kernel)

/-- **A scene that is not drawn** beside one of the same shape that is: the right edge of the sticky
note is past all doubles. -/
theorem exists_undrawn_of_shape : ∃ s s' : Scene, s.shape = s'.shape ∧
    (∃ document, svgText .default s = .ok document) ∧
    ¬∃ document, svgText .default s' = .ok document := by
  refine ⟨.ofNote "n" 0 200, .ofNote "n" (17 * 10 ^ 307) (17 * 10 ^ 307), rfl, ?_, ?_⟩
  · rw [exists_svgText_iff]
    decide +kernel
  · rw [exists_svgText_iff]
    decide +kernel

end SchemaDiagram

import SchemaDiagram.Declaration.Document
import SchemaDiagram.Failure
import SchemaDiagram.Text.PathName

/-! # Source formats

A format is named like a file extension, in any case and with or without its dot. A registry maps
formats to the readers of their documents. -/

namespace SchemaDiagram

/-- A format name in small letters, without blanks around it and without its dot. -/
def normalizeFormat (format : Text) : Text := Text.dropHead ['.'] (Text.lower format.trim)

/-- The format of a source that has no extension. -/
def defaultFormat : Text := "dbml"

/-- The readers of documents by format. -/
abbrev FormatRegistry := OrderedMap (Text → Schema)

namespace FormatRegistry

/-- The registry that knows the default format only. -/
def standard : FormatRegistry := [(defaultFormat, readSchema)]

/-- Adds a reader for a format, or replaces it. -/
def register (registry : FormatRegistry) (format : Text) (reader : Text → Schema) :
    FormatRegistry :=
  OrderedMap.insert registry (normalizeFormat format) reader

/-- The formats that are known, in code point order. -/
def supported (registry : FormatRegistry) : List Text := Text.sort (OrderedMap.keys registry)

/-- The reader for a format. -/
def reader (registry : FormatRegistry) (format : Text) : Except Failure (Text → Schema) :=
  match OrderedMap.get? registry (normalizeFormat format) with
  | some reader => .ok reader
  | none => .error (.unsupportedFormat format)

end FormatRegistry

/-- The model of a document in the given format. -/
def parseSchema (text format : Text) : Except Failure Schema :=
  (FormatRegistry.standard.reader format).map (· text)

/-- The format of the document at a path. -/
def formatOfPath (path : Text) : Text :=
  let extension := Text.fileExtension path
  if extension.isEmpty then defaultFormat else normalizeFormat extension

end SchemaDiagram

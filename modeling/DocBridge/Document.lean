import DocBridge.Json.Codec
import DocBridge.Text.Lowercase

/-!
# Documents

A markdown document lives in a collection under a key and a language, and carries metadata: lists
of values under names.  Its identifier is made of the lowercase of the three, so that they are the
same in any letter case.
-/

namespace DocBridge

/-- Metadata: an ordered list of values under every name. -/
abbrev Meta := SortedMap (List String)

def defaultLang : String := "en_US"

/-- The identifier of a document: the lowercase of collection, key and language, with a bar
between them. -/
def documentId (collection key lang : String) : String :=
  lowercase collection ++ "|" ++ lowercase key ++ "|" ++ lowercase lang

/-- A stored document.  Times are in seconds. -/
structure Document where
  id : String := ""
  key : String := ""
  lang : String := ""
  metadata : Meta := ∅
  contentMd : String := ""
  addedAt : Int64 := 0
  updatedAt : Int64 := 0
deriving DecidableEq, Repr

/-- The name of one document in a collection. -/
structure DocumentRef where
  key : String
  lang : String
deriving DecidableEq, Repr

/-- A document to be written as part of a batch. -/
structure BatchEntry where
  key : String
  lang : String
  metadata : Meta
  contentMd : String
  saveRevision : Bool
deriving DecidableEq, Repr

open Json

instance : Codec Document where
  schema := .record [optional "id" String, optional "key" String, optional "lang" String,
    optional "meta" Meta, optional "contentMd" String, optional "addedAt" Int64,
    optional "updatedAt" Int64]
  toJson d := .object (always "id" d.id ++ always "key" d.key ++ always "lang" d.lang ++
    always "meta" d.metadata ++ always "contentMd" d.contentMd ++ always "addedAt" d.addedAt ++
    always "updatedAt" d.updatedAt)
  ofJson? json := do
    let members ← json.members?
    return {
      id := ← fieldOr members "id" ""
      key := ← fieldOr members "key" ""
      lang := ← fieldOr members "lang" ""
      metadata := ← fieldOr members "meta" ∅
      contentMd := ← fieldOr members "contentMd" ""
      addedAt := ← fieldOr members "addedAt" 0
      updatedAt := ← fieldOr members "updatedAt" 0 }

instance : Codec DocumentRef where
  schema := .record [required "key" String, required "lang" String]
  toJson d := .object (always "key" d.key ++ always "lang" d.lang)
  ofJson? json := do
    let members ← json.members?
    return { key := ← field members "key", lang := ← field members "lang" }

instance : Codec BatchEntry where
  schema := .record [required "key" String, required "lang" String, required "meta" Meta,
    required "contentMd" String, required "saveRevision" Bool]
  toJson d := .object (always "key" d.key ++ always "lang" d.lang ++ always "meta" d.metadata ++
    always "contentMd" d.contentMd ++ always "saveRevision" d.saveRevision)
  ofJson? json := do
    let members ← json.members?
    return {
      key := ← field members "key"
      lang := ← field members "lang"
      metadata := ← field members "meta"
      contentMd := ← field members "contentMd"
      saveRevision := ← field members "saveRevision" }

end DocBridge

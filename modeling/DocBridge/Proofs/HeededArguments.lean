import DocBridge.Proofs.ToolCatalog

/-!
# Arguments that are not heeded

An agent may give a tool more than it asks for.  What the schema of the tool does not declare, and
what it declares as optional but of another type, has no part in what comes of the call: it could as
well be left out.  The decoder does not look at the schema, so this is a fact about what it reads.
-/

namespace DocBridge

/-! ## What a schema heeds -/

namespace Json

/-- The name that a schema has for the type of a value.  Any number will do for an integer. -/
def typeName : Json → String
  | .null => "null"
  | .bool _ => "boolean"
  | .number _ => "integer"
  | .string _ => "string"
  | .array _ => "array"
  | .object _ => "object"

theorem string?_eq_some_iff {json : Json} {text : String} :
    json.string? = some text ↔ json = .string text := by
  cases json <;> simp [string?]

theorem requires_iff {schema : Json} {name : String} :
    schema.Requires name ↔
      ∃ item ∈ ((schema.member? "required").bind items?).getD [], item.string? = some name := by
  simp only [Requires, string?_eq_some_iff, exists_eq_right]
  cases schema.member? "required" with
  | none => simp
  | some json => cases json <;> simp [items?]

instance (schema : Json) (name : String) : Decidable (schema.Requires name) :=
  decidable_of_iff _ requires_iff.symm

/-- A schema heeds a member that it declares, unless this is optional and not of the type that the
schema gives to it. -/
def Heeds (schema : Json) (member : String × Json) : Prop :=
  ((schema.member? "properties").bind (·.member? member.1)).isSome ∧
    (schema.Requires member.1 ∨
      (schema.propertyType? member.1).bind string? = some member.2.typeName)

instance (schema : Json) (member : String × Json) : Decidable (schema.Heeds member) :=
  inferInstanceAs (Decidable (_ ∧ _))

end Json

namespace ArgumentType

def name : ArgumentType → String
  | .string => "string"
  | .integer => "integer"
  | .boolean => "boolean"
  | .metadata => "object"
  | .entries => "array"

theorem member?_type_toJson (type : ArgumentType) :
    type.toJson.member? "type" = some (.string type.name) := by
  cases type <;> simp [toJson, name, Json.member?_record, List.lookup_cons_self]

/-- What is left of a value for a reader of values of a type. -/
def view (type : ArgumentType) (value : Option Json) : Option Json :=
  value.filter fun json => json.typeName == type.name

end ArgumentType

namespace Tool

variable {tool : Tool} {name : String} {type : ArgumentType}

def declared (tool : Tool) : List (String × ArgumentType) :=
  tool.arguments.required ++ tool.arguments.optional

theorem lookup_declared (h : (name, type) ∈ tool.declared) :
    tool.declared.lookup name = some type :=
  (SortedMap.lookup_eq_some_iff_mem tool.nodup_argumentNames).2 h

/-- What is declared is heeded, unless it is optional and of another type. -/
theorem heeds_iff (h : (name, type) ∈ tool.declared) {json : Json} :
    tool.definition.inputSchema.Heeds (name, json) ↔
      (name, type) ∈ tool.arguments.required ∨ json.typeName = type.name := by
  have hrequired : (∃ other, (name, other) ∈ tool.arguments.required) ↔
      (name, type) ∈ tool.arguments.required := by
    constructor
    · rintro ⟨other, hother⟩
      have hsame := (lookup_declared h).symm.trans (lookup_declared (List.mem_append_left _ hother))
      rwa [Option.some.inj hsame]
    · exact fun hname => ⟨type, hname⟩
  simp only [Json.Heeds, definition, ArgumentSchema.property?_toJson,
    ArgumentSchema.propertyType?_toJson, ArgumentSchema.requires_toJson, hrequired]
  -- The properties of the schema are written from what is declared, under the same names.
  change ((tool.declared.lookup name).map _).isSome ∧
    (_ ∨ ((tool.declared.lookup name).bind _).bind Json.string? = _) ↔ _
  rw [lookup_declared h, Option.bind_some, type.member?_type_toJson]
  simp [Json.string?, eq_comm]

end Tool

/-! ## What a decoder sees -/

namespace Arguments

variable {first second : Arguments} {name : String}

/-- Two objects that show the same under a name to a reader of values of a type. -/
def SameFor (first second : Arguments) (name : String) (type : ArgumentType) : Prop :=
  type.view (first.get? name) = type.view (second.get? name)

/-- A reader that takes values of one type only does not see what the type hides. -/
theorem bind_view_eq {β : Type} {type : ArgumentType} {read : Json → Option β}
    (hread : ∀ json : Json, json.typeName ≠ type.name → read json = none) (value : Option Json) :
    (type.view value).bind read = value.bind read := by
  cases value with
  | none => rfl
  | some json =>
    by_cases htype : json.typeName = type.name
    · simp [ArgumentType.view, Option.filter_some, htype]
    · simp [ArgumentType.view, Option.filter_some, htype, hread json htype]

theorem SameFor.bind_eq {β : Type} {type : ArgumentType} {read : Json → Option β}
    (h : SameFor first second name type)
    (hread : ∀ json : Json, json.typeName ≠ type.name → read json = none) :
    (first.get? name).bind read = (second.get? name).bind read := by
  rw [← bind_view_eq hread, h, bind_view_eq hread]

theorem SameFor.string_eq (h : SameFor first second name .string) :
    first.string name = second.string name := by
  have hread (json : Json) (htype : json.typeName ≠ "string") : json.string? = none := by
    cases json <;> first | rfl | exact absurd rfl htype
  rw [string, string, h.bind_eq hread]

theorem SameFor.int32_eq (h : SameFor first second name .integer) :
    first.int32 name = second.int32 name := by
  have hread (json : Json) (htype : json.typeName ≠ "integer") : json.number? = none := by
    cases json <;> first | rfl | exact absurd rfl htype
  rw [int32, int32, int64, int64, h.bind_eq hread]

theorem SameFor.bool_eq (h : SameFor first second name .boolean) :
    first.bool name = second.bool name := by
  have hread (json : Json) (htype : json.typeName ≠ "boolean") : json.bool? = none := by
    cases json <;> first | rfl | exact absurd rfl htype
  rw [bool, bool, h.bind_eq hread]

theorem SameFor.metadata_eq (h : SameFor first second name .metadata) :
    first.metadata name = second.metadata name := by
  have hread (json : Json) (htype : json.typeName ≠ "object") : json.members? = none := by
    cases json <;> first | rfl | exact absurd rfl htype
  rw [metadata, metadata, h.bind_eq hread]

theorem SameFor.entries_eq (h : SameFor first second name .entries) :
    first.entries name = second.entries name := by
  have hread (json : Json) (htype : json.typeName ≠ "array") : json.items? = none := by
    cases json <;> first | rfl | exact absurd rfl htype
  rw [entries, entries, h.bind_eq hread]

/-- Two objects from which the same is read under a name as a value of a type. -/
def ReadAlike (first second : Arguments) (name : String) : ArgumentType → Prop
  | .string => first.string name = second.string name
  | .integer => first.int32 name = second.int32 name
  | .boolean => first.bool name = second.bool name
  | .metadata => first.metadata name = second.metadata name
  | .entries => first.batchEntries name = second.batchEntries name ∧
      first.documentRefs name = second.documentRefs name

/-- What shows the same is read alike. -/
theorem SameFor.readAlike {type : ArgumentType} (h : SameFor first second name type) :
    ReadAlike first second name type := by
  cases type with
  | string => exact h.string_eq
  | integer => exact h.int32_eq
  | boolean => exact h.bool_eq
  | metadata => exact h.metadata_eq
  | entries =>
    have hentries := h.entries_eq
    exact ⟨by rw [batchEntries, batchEntries, hentries],
      by rw [documentRefs, documentRefs, hentries]⟩

end Arguments

namespace ToolCall

variable {first second : Arguments}

/-- A tool reads each argument that it announces as a value of the type that it announces, and
nothing else. -/
theorem ofArguments_eq_of_readAlike (tool : Tool)
    (h : ∀ name type, (name, type) ∈ tool.declared → first.ReadAlike second name type) :
    ofArguments tool first = ofArguments tool second := by
  have hstring (name : String) (hname : (name, .string) ∈ tool.declared) :
      first.string name = second.string name := h name .string hname
  have hrequired (name : String) (hname : (name, .string) ∈ tool.declared) :
      first.requiredString name = second.requiredString name := by
    rw [Arguments.requiredString, Arguments.requiredString, hstring name hname]
  have hmetadata (name : String) (hname : (name, .metadata) ∈ tool.declared) :
      first.metadata name = second.metadata name := h name .metadata hname
  have hbool (name : String) (hname : (name, .boolean) ∈ tool.declared) :
      first.bool name = second.bool name := h name .boolean hname
  have hint32 (name : String) (hname : (name, .integer) ∈ tool.declared) :
      first.int32 name = second.int32 name := h name .integer hname
  have hentries (name : String) (hname : (name, .entries) ∈ tool.declared) :
      first.batchEntries name = second.batchEntries name := (h name .entries hname).1
  have hrefs (name : String) (hname : (name, .entries) ∈ tool.declared) :
      first.documentRefs name = second.documentRefs name := (h name .entries hname).2
  -- What a tool reads is found among what it announces, by name and type, one tool at a time.
  cases tool with
  | addDocument =>
    simp only [ofArguments, hrequired "collection" (by decide), hrequired "key" (by decide),
      hrequired "lang" (by decide), hrequired "content_md" (by decide),
      hmetadata "meta" (by decide), hbool "save_revision" (by decide)]
  | searchDocuments =>
    simp only [ofArguments, hrequired "collection" (by decide),
      hmetadata "filter_meta" (by decide), hstring "sort" (by decide), hbool "asc" (by decide),
      hint32 "limit" (by decide), hint32 "offset" (by decide)]
  | deleteDocument =>
    simp only [ofArguments, hrequired "collection" (by decide), hrequired "key" (by decide),
      hrequired "lang" (by decide)]
  | deleteCollection => simp only [ofArguments, hrequired "collection" (by decide)]
  | addBatch | updateBatch | deleteBatch =>
    simp only [ofArguments, writeBatch_eq, deletions_eq, takeBatch,
      hrequired "collection" (by decide), hentries "documents" (by decide),
      hrefs "documents" (by decide)]
  | getStats => rfl
  | exportDocuments =>
    simp only [ofArguments, hrequired "collection" (by decide),
      hmetadata "filter_meta" (by decide), hstring "format" (by decide)]
  | createBackup => simp only [ofArguments, hrequired "to" (by decide)]
  | restoreBackup => simp only [ofArguments, hrequired "from" (by decide)]
  | truncateRevisions =>
    simp only [ofArguments, hstring "collection" (by decide), hint32 "keep_revs" (by decide),
      hbool "drop_cache" (by decide)]

/-- The arguments that a tool declares decide how it reads a bag. -/
theorem ofArguments_congr (tool : Tool)
    (h : ∀ argument ∈ tool.declared, first.SameFor second argument.1 argument.2) :
    ofArguments tool first = ofArguments tool second :=
  ofArguments_eq_of_readAlike tool fun name type hname => (h (name, type) hname).readAlike

/-- The arguments that the schema of a tool heeds show the tool what all of them do. -/
theorem sameFor_heeded {tool : Tool} {arguments : Arguments}
    (hnodup : (arguments.map Prod.fst).Nodup) {name : String} {type : ArgumentType}
    (h : (name, type) ∈ tool.declared) :
    Arguments.SameFor (arguments.filter (tool.definition.inputSchema.Heeds ·)) arguments name
      type := by
  rw [Arguments.SameFor, Arguments.get?, Arguments.get?, SortedMap.lookup_filter hnodup]
  cases arguments.lookup name with
  | none => rfl
  | some json =>
    by_cases hheeds : tool.definition.inputSchema.Heeds (name, json)
    · simp [Option.filter_some, hheeds]
    · have htype : json.typeName ≠ type.name := fun htype =>
        hheeds ((Tool.heeds_iff h).2 (.inr htype))
      simp [Option.filter_some, hheeds, ArgumentType.view, htype]

/-- Whatever tool an agent calls, what comes of it is the same without the arguments that the
announced schema of the tool does not declare, and without the optional ones of another type than
the schema gives to them. -/
theorem decode_heeded {arguments : Arguments} (hnodup : (arguments.map Prod.fst).Nodup)
    {definition : ToolDefinition} (h : definition ∈ Tool.all.map Tool.definition) :
    decode definition.name (arguments.filter (definition.inputSchema.Heeds ·)) =
      decode definition.name arguments := by
  obtain ⟨tool, -, rfl⟩ := List.mem_map.1 h
  change decode tool.name _ = decode tool.name _
  rw [decode, decode, Tool.ofName?_name]
  exact ofArguments_congr tool fun _ hargument => sameFor_heeded hnodup hargument

/-- A search with a setting that there is not, and with two of another type than they should be. -/
def looseSearch : Arguments :=
  [("asc", .string "true"), ("collection", .string "blog"), ("limit", .string "5"),
    ("page", .bool true), ("sort", .string "key")]

theorem decode_looseSearch :
    (looseSearch.map Prod.fst).Nodup ∧
      looseSearch.filter (Tool.searchDocuments.definition.inputSchema.Heeds ·) =
        [("collection", .string "blog"), ("sort", .string "key")] ∧
      decode "search_documents" looseSearch =
        .ok (.searchDocuments { collection := "blog", sort := "key" }) :=
  ⟨by decide, rfl, (decode_heeded (by decide)
    (List.mem_map_of_mem (Tool.mem_all .searchDocuments))).symm.trans rfl⟩

end ToolCall

end DocBridge

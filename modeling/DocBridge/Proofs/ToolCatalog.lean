import DocBridge.Proofs.DecodedArguments

/-!
# The catalog and the decoder agree

The catalog announces each tool with a schema of its arguments, and the decoder takes them one by
one, without a look at the schema.  Still a call is decoded exactly if the catalog announces a tool
of its name whose schema admits the arguments.  A schema does not say that a required text must not
be empty, nor that the documents of a batch must have keys: here both belong to being admitted.
-/

namespace DocBridge

/-! ## What a schema says -/

namespace Json

def Requires (schema : Json) (name : String) : Prop :=
  ∃ names, schema.member? "required" = some (.array names) ∧ .string name ∈ names

def propertyType? (schema : Json) (name : String) : Option Json :=
  ((schema.member? "properties").bind (·.member? name)).bind (·.member? "type")

end Json

/-- Arguments that have what the schema of a tool requires: texts that are not empty, and documents
that have keys. -/
structure ToolDefinition.Admits (tool : ToolDefinition) (arguments : Arguments) : Prop where
  texts : ∀ name, tool.inputSchema.Requires name →
    tool.inputSchema.propertyType? name = some (.string "string") → arguments.HasText name
  documents : tool.inputSchema.Requires "documents" → arguments.HasEntries "documents"

theorem ArgumentType.member?_type_eq_string_iff (type : ArgumentType) :
    type.toJson.member? "type" = some (.string "string") ↔ type = .string := by
  cases type <;> simp [toJson, Json.member?_record, List.lookup_cons_self]

namespace ArgumentSchema

variable (schema : ArgumentSchema) (name : String)

theorem requires_toJson :
    schema.toJson.Requires name ↔ ∃ type, (name, type) ∈ schema.required := by
  have hrequired : schema.toJson.member? "required" =
      some (.array (schema.required.map fun argument => .string argument.1)) := by
    rw [toJson, Json.member?_record]
    rfl
  simp [Json.Requires, hrequired]

theorem property?_toJson :
    (schema.toJson.member? "properties").bind (·.member? name) =
      ((schema.required ++ schema.optional).lookup name).map (·.toJson) := by
  have hproperties : schema.toJson.member? "properties" = some (.record
      ((schema.required ++ schema.optional).map fun argument =>
        (argument.1, argument.2.toJson))) := by
    rw [toJson, Json.member?_record]
    rfl
  rw [hproperties, Option.bind_some, Json.member?_record, SortedMap.lookup_map_values]

theorem propertyType?_toJson :
    schema.toJson.propertyType? name =
      ((schema.required ++ schema.optional).lookup name).bind (·.toJson.member? "type") := by
  rw [Json.propertyType?, property?_toJson, Option.bind_map]
  rfl

end ArgumentSchema

namespace Tool

variable {tool : Tool} {arguments : Arguments}

/-- No tool has two arguments of one name. -/
theorem nodup_argumentNames (tool : Tool) :
    ((tool.arguments.required ++ tool.arguments.optional).map Prod.fst).Nodup := by
  cases tool <;> decide

/-- No argument is named twice, so that a required text is one that the schema types as a text. -/
theorem requires_text_iff {name : String} :
    (tool.definition.inputSchema.Requires name ∧
      tool.definition.inputSchema.propertyType? name = some (.string "string")) ↔
        (name, .string) ∈ tool.arguments.required := by
  have hlookup {type : ArgumentType} (h : (name, type) ∈ tool.arguments.required) :
      (tool.arguments.required ++ tool.arguments.optional).lookup name = some type :=
    (SortedMap.lookup_eq_some_iff_mem tool.nodup_argumentNames).2 (List.mem_append_left _ h)
  simp only [definition, ArgumentSchema.requires_toJson, ArgumentSchema.propertyType?_toJson]
  constructor
  · rintro ⟨⟨type, htype⟩, hstring⟩
    rw [hlookup htype, Option.bind_some, type.member?_type_eq_string_iff] at hstring
    exact hstring ▸ htype
  · intro hstring
    refine ⟨⟨_, hstring⟩, ?_⟩
    rw [hlookup hstring]
    rfl

theorem requires_documents_iff :
    tool.definition.inputSchema.Requires "documents" ↔
      ("documents", .entries) ∈ tool.arguments.required := by
  rw [definition, ArgumentSchema.requires_toJson]
  cases tool <;> simp [Tool.arguments]

/-- A definition admits the arguments that have all its required texts and documents. -/
theorem admits_iff : tool.definition.Admits arguments ↔
    (∀ name, (name, .string) ∈ tool.arguments.required → arguments.HasText name) ∧
      (("documents", .entries) ∈ tool.arguments.required → arguments.HasEntries "documents") := by
  constructor
  · intro h
    refine ⟨fun name hname => ?_, fun hdocuments =>
      h.documents (requires_documents_iff.2 hdocuments)⟩
    obtain ⟨hrequired, htype⟩ := requires_text_iff.2 hname
    exact h.texts name hrequired htype
  · rintro ⟨htexts, hdocuments⟩
    exact ⟨fun name hrequired htype => htexts name (requires_text_iff.1 ⟨hrequired, htype⟩),
      fun hrequired => hdocuments (requires_documents_iff.1 hrequired)⟩

/-- There is a definition of a name in the catalog exactly if it is that of a tool of this name. -/
theorem exists_definition_iff {name : String} {P : ToolDefinition → Prop} :
    (∃ definition ∈ all.map Tool.definition, definition.name = name ∧ P definition) ↔
      ∃ tool : Tool, ofName? name = some tool ∧ P tool.definition := by
  simp only [List.mem_map]
  constructor
  · rintro ⟨_, ⟨tool, -, rfl⟩, rfl, htool⟩
    exact ⟨tool, ofName?_name tool, htool⟩
  · rintro ⟨tool, hname, htool⟩
    exact ⟨_, ⟨tool, mem_all tool, rfl⟩, name_of_ofName? hname, htool⟩

end Tool

/-! ## What the decoder takes -/

namespace ToolCall

variable {arguments : Arguments}

open Arguments in
/-- A tool accepts arguments if the required texts and documents are there. -/
theorem exists_ofArguments_iff (tool : Tool) :
    (∃ toolCall, ofArguments tool arguments = .ok toolCall) ↔
      (∀ name, (name, .string) ∈ tool.arguments.required → arguments.HasText name) ∧
        (("documents", .entries) ∈ tool.arguments.required → arguments.HasEntries "documents") := by
  cases tool with
  | addDocument =>
    refine (exists_requiredString_bind_iff fun _ => exists_requiredString_bind_iff fun _ =>
      exists_requiredString_bind_iff fun _ => exists_requiredString_pure_iff).trans ?_
    simp [Tool.arguments]
  | deleteDocument =>
    refine (exists_requiredString_bind_iff fun _ => exists_requiredString_bind_iff fun _ =>
      exists_requiredString_pure_iff).trans ?_
    simp [Tool.arguments]
  | searchDocuments | deleteCollection | exportDocuments | createBackup | restoreBackup =>
    refine exists_requiredString_pure_iff.trans ?_
    simp [Tool.arguments]
  | addBatch | updateBatch | deleteBatch =>
    refine exists_map_iff.trans ((exists_takeBatch_iff fun _ => rfl).trans ?_)
    simp [Tool.arguments]
  | getStats | truncateRevisions => simp [ofArguments, Tool.arguments]

theorem exists_decode_iff {name : String} :
    (∃ toolCall, decode name arguments = .ok toolCall) ↔
      ∃ tool, Tool.ofName? name = some tool ∧
        ∃ toolCall, ofArguments tool arguments = .ok toolCall := by
  rw [decode]
  cases Tool.ofName? name <;> simp

/-- Whatever the arguments of a tool that there is, its failure is another. -/
theorem decode_eq_unknownTool_iff {name other : String} :
    decode name arguments = .error (.unknownTool other) ↔
      other = name ∧ ∀ tool ∈ Tool.all, tool.name ≠ name := by
  rw [decode, ← Tool.ofName?_eq_none_iff]
  cases Tool.ofName? name with
  | none => simp [eq_comm]
  | some tool =>
    have hother : ofArguments tool arguments ≠ .error (.unknownTool other) :=
      fun hunknown => nomatch failsOnly_ofArguments arguments tool _ hunknown
    simpa using hother

/-- A call is decoded exactly if the catalog announces a tool of its name whose schema admits the
arguments.  The tool is said to be unknown exactly if the catalog announces none of that name. -/
theorem decode_agrees_with_catalog (name : String) (arguments : Arguments) :
    ((∃ toolCall, decode name arguments = .ok toolCall) ↔
        ∃ definition ∈ Tool.all.map Tool.definition,
          definition.name = name ∧ definition.Admits arguments) ∧
      ∀ other, decode name arguments = .error (.unknownTool other) ↔
        other = name ∧ ∀ definition ∈ Tool.all.map Tool.definition, definition.name ≠ name := by
  refine ⟨?_, fun other => ?_⟩
  · rw [exists_decode_iff, Tool.exists_definition_iff]
    simp only [exists_ofArguments_iff, Tool.admits_iff]
  · rw [decode_eq_unknownTool_iff]
    simp [Tool.definition]

end ToolCall

end DocBridge

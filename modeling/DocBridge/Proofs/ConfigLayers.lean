import DocBridge.Config
import DocBridge.Proofs.Outcomes
import Mathlib.Data.List.TakeWhile

/-!
# Layers of a configuration

Every field of a configuration is what the topmost layer says that sets it: its own variable, if
that is set and not empty, or else the file, or else the defaults.  The fields are told apart here
by their names, so that what is said of one is said of all.
-/

/-! ## Natural numbers -/

namespace DocBridge.Decimal

/-- Whether a text is a natural number in decimal digits, perhaps with a plus sign. -/
def Spells (text : List Char) (n : Nat) : Prop :=
  ∃ digits, (text = digits ∨ text = '+' :: digits) ∧ digits ≠ [] ∧
    (∀ character ∈ digits, Digit.isDecimal character = true) ∧ ofDigits digits = n

theorem length_takeWhile_lt_iff (text : List Char) :
    (text.takeWhile Digit.isDecimal).length < text.length ↔
      ¬ ∀ character ∈ text, Digit.isDecimal character = true := by
  have hbegun := List.takeWhile_prefix Digit.isDecimal (l := text)
  rw [← List.takeWhile_eq_self_iff]
  constructor
  · intro hshorter hsame
    exact absurd (congrArg List.length hsame) (Nat.ne_of_lt hshorter)
  · intro hother
    exact Nat.lt_of_le_of_ne hbegun.length_le fun hlength => hother (hbegun.eq_of_length hlength)

theorem spells_plus_iff {digits : List Char} {value : Nat} :
    Spells ('+' :: digits) value ↔
      digits ≠ [] ∧ (∀ character ∈ digits, Digit.isDecimal character = true) ∧
        ofDigits digits = value := by
  constructor
  · rintro ⟨other, rfl | hsame, hnonempty, hdigits, hvalue⟩
    · cases hdigits '+' List.mem_cons_self
    · obtain ⟨-, rfl⟩ := List.cons.inj hsame
      exact ⟨hnonempty, hdigits, hvalue⟩
  · exact fun h => ⟨digits, .inr rfl, h⟩

theorem spells_iff_of_ne {text : List Char} (h : ∀ digits, text ≠ '+' :: digits) {value : Nat} :
    Spells text value ↔
      text ≠ [] ∧ (∀ character ∈ text, Digit.isDecimal character = true) ∧
        ofDigits text = value := by
  constructor
  · rintro ⟨other, rfl | hsame, hspells⟩
    · exact hspells
    · exact absurd hsame (h other)
  · exact fun h => ⟨text, .inl rfl, h⟩

/-- Digits without a sign are read as the number that they make, if it is not too large. -/
theorem ofSigned_eq_ok_iff {largest : Nat} {text : List Char} {n : Int} :
    ofSigned false 0 largest text = .ok n ↔
      ∃ value : Nat, (text ≠ [] ∧ (∀ character ∈ text, Digit.isDecimal character = true) ∧
        ofDigits text = value) ∧ value ≤ largest ∧ (value : Int) = n := by
  have hsign : ¬ (ofDigits (text.takeWhile Digit.isDecimal) : Int) < 0 :=
    Int.not_lt.2 (Int.natCast_nonneg _)
  simp only [ofSigned, Bool.false_eq_true, if_false, hsign, Bool.or_eq_true, decide_eq_true_eq,
    List.isEmpty_iff, length_takeWhile_lt_iff, Int.ofNat_lt]
  constructor
  · intro h
    split at h
    · cases h
    · rename_i hlarge
      split at h
      · cases h
      · rename_i hsound
        obtain ⟨hnonempty, hdigits⟩ := not_or.1 hsound
        have hdigits := Decidable.not_not.1 hdigits
        rw [List.takeWhile_eq_self_iff.2 hdigits] at h hlarge
        exact ⟨_, ⟨hnonempty, hdigits, rfl⟩, Nat.not_lt.1 hlarge, Except.ok.inj h⟩
  · rintro ⟨_, ⟨hnonempty, hdigits, rfl⟩, hlarge, rfl⟩
    rw [List.takeWhile_eq_self_iff.2 hdigits, if_neg (Nat.not_lt.2 hlarge),
      if_neg (not_or.2 ⟨hnonempty, not_not_intro hdigits⟩)]

/-- A number that is not negative is read from just those texts that spell one in its range. -/
theorem parse_natural_iff {largest : Nat} {text : List Char} {n : Int} :
    parse 0 largest text = .ok n ↔
      ∃ value : Nat, Spells text value ∧ value ≤ largest ∧ (value : Int) = n := by
  unfold parse
  split
  · simp [spells_iff_of_ne]
  · simp only [spells_plus_iff]
    exact ofSigned_eq_ok_iff
  · rename_i digits
    have hplus : ∀ others, '-' :: digits ≠ '+' :: others := nofun
    rw [if_neg (Int.lt_irrefl 0)]
    simp only [spells_iff_of_ne hplus]
    exact ofSigned_eq_ok_iff
  · rename_i hplus _
    simp only [spells_iff_of_ne hplus]
    exact ofSigned_eq_ok_iff

theorem Spells.unique {text : List Char} {first second : Nat} (hfirst : Spells text first)
    (hsecond : Spells text second) : first = second := by
  have hread := parse_natural_iff.2 ⟨first, hfirst, Nat.le_max_left first second, rfl⟩
  have hother := parse_natural_iff.2 ⟨second, hsecond, Nat.le_max_right first second, rfl⟩
  exact Int.ofNat.inj (Except.ok.inj (hread.symm.trans hother))

end DocBridge.Decimal

namespace DocBridge

theorem TransportMode.name_injective {first second : TransportMode}
    (h : first.name = second.name) : first = second := by
  cases first <;> cases second <;> first | rfl | exact absurd h (by decide)

theorem TransportMode.ofName?_eq_some_iff {text : String} {mode : TransportMode} :
    ofName? text = some mode ↔ mode.name = text := by
  constructor
  · intro h
    have hfound : (mode.name == text) = true :=
      List.find?_some (p := fun mode : TransportMode => mode.name == text) h
    exact eq_of_beq hfound
  · rintro rfl
    cases mode <;> rfl

theorem TransportMode.parse_eq_ok_iff {text : String} {mode : TransportMode} :
    parse text = .ok mode ↔ mode.name = text := by
  rw [parse, ← ofName?_eq_some_iff]
  cases ofName? text <;> simp

/-! ## Fields -/

inductive ConfigField where
  | listenAddress
  | grpcAddress
  | restBaseUrl
  | transportMode
  | timeoutSeconds
  | maxRetries
deriving DecidableEq

namespace ConfigField

/-- The fields in the order in which their variables are read. -/
def all : List ConfigField :=
  [.listenAddress, .grpcAddress, .restBaseUrl, .transportMode, .timeoutSeconds, .maxRetries]

abbrev Value : ConfigField → Type
  | .listenAddress | .grpcAddress | .restBaseUrl => String
  | .transportMode => TransportMode
  | .timeoutSeconds => UInt64
  | .maxRetries => UInt32

def get (config : Config) : (field : ConfigField) → field.Value
  | .listenAddress => config.listenAddress
  | .grpcAddress => config.grpcAddress
  | .restBaseUrl => config.restBaseUrl
  | .transportMode => config.transportMode
  | .timeoutSeconds => config.timeoutSeconds
  | .maxRetries => config.maxRetries

def get? (layer : ConfigLayer) : (field : ConfigField) → Option field.Value
  | .listenAddress => layer.listenAddress
  | .grpcAddress => layer.grpcAddress
  | .restBaseUrl => layer.restBaseUrl
  | .transportMode => layer.transportMode
  | .timeoutSeconds => layer.timeoutSeconds
  | .maxRetries => layer.maxRetries

def put (layer : ConfigLayer) : (field : ConfigField) → field.Value → ConfigLayer
  | .listenAddress, text => { layer with listenAddress := some text }
  | .grpcAddress, text => { layer with grpcAddress := some text }
  | .restBaseUrl, text => { layer with restBaseUrl := some text }
  | .transportMode, mode => { layer with transportMode := some mode }
  | .timeoutSeconds, seconds => { layer with timeoutSeconds := some seconds }
  | .maxRetries, count => { layer with maxRetries := some count }

def variableName : ConfigField → String
  | .listenAddress => "MCP_LISTEN_ADDRESS"
  | .grpcAddress => "MDDB_GRPC_ADDRESS"
  | .restBaseUrl => "MDDB_REST_BASE_URL"
  | .transportMode => "MDDB_TRANSPORT_MODE"
  | .timeoutSeconds => "MDDB_TIMEOUT_SECONDS"
  | .maxRetries => "MDDB_MAX_RETRIES"

/-- What the text of a variable means for its field: an address or URL is taken as it is, a mode is
named, and a number is spelled. -/
def Reads (text : String) : (field : ConfigField) → field.Value → Prop
  | .listenAddress, value | .grpcAddress, value | .restBaseUrl, value => value = text
  | .transportMode, mode => mode.name = text
  | .timeoutSeconds, seconds => Decimal.Spells text.toList seconds.toNat
  | .maxRetries, count => Decimal.Spells text.toList count.toNat

/-- The text of the variable of a field, unless it is empty. -/
def given? (environment : String → Option String) (field : ConfigField) : Option String :=
  (environment field.variableName).filter (· ≠ "")

/-- The value of a field in the topmost layer that sets it. -/
inductive Settles (environment : String → Option String) (file : ConfigLayer)
    (field : ConfigField) : field.Value → Prop
  | byVariable {text : String} {value : field.Value} (hgiven : field.given? environment = some text)
      (hreads : field.Reads text value) : Settles environment file field value
  | byFile {value : field.Value} (hgiven : field.given? environment = none)
      (hfile : field.get? file = some value) : Settles environment file field value
  | byDefault (hgiven : field.given? environment = none) (hfile : field.get? file = none) :
      Settles environment file field (field.get {})

theorem mem_all (field : ConfigField) : field ∈ all := by
  cases field <;> decide

theorem config_ext {first second : Config} (h : ∀ field, get first field = get second field) :
    first = second := by
  cases first
  cases second
  simp only [Config.mk.injEq]
  exact ⟨h .listenAddress, h .grpcAddress, h .restBaseUrl, h .transportMode, h .timeoutSeconds,
    h .maxRetries⟩

/-- A layer on top decides the fields that it sets. -/
theorem get_overlay (config : Config) (layer : ConfigLayer) (field : ConfigField) :
    field.get (config.overlay layer) = (field.get? layer).getD (field.get config) := by
  cases field <;> rfl

theorem get?_put_self (layer : ConfigLayer) (field : ConfigField) (value : field.Value) :
    field.get? (field.put layer value) = some value := by
  cases field <;> rfl

theorem get?_put_of_ne (layer : ConfigLayer) {field other : ConfigField} (h : other ≠ field)
    (value : field.Value) : other.get? (field.put layer value) = other.get? layer := by
  cases field <;> cases other <;> first | rfl | exact absurd rfl h

/-- A text is read as one value only. -/
theorem Reads.unique {text : String} {field : ConfigField} {first second : field.Value}
    (hfirst : field.Reads text first) (hsecond : field.Reads text second) : first = second := by
  cases field with
  | listenAddress | grpcAddress | restBaseUrl => exact hfirst.trans hsecond.symm
  | transportMode => exact TransportMode.name_injective (hfirst.trans hsecond.symm)
  | timeoutSeconds => exact UInt64.toNat_inj.1 (Decimal.Spells.unique hfirst hsecond)
  | maxRetries => exact UInt32.toNat_inj.1 (Decimal.Spells.unique hfirst hsecond)

section Settles

variable {environment : String → Option String} {file : ConfigLayer} {field : ConfigField}
  {value : field.Value}

theorem settles_of_given {text : String} (h : field.given? environment = some text) :
    Settles environment file field value ↔ field.Reads text value := by
  constructor
  · intro hsettles
    cases hsettles with
    | byVariable hgiven hreads => exact Option.some.inj (hgiven.symm.trans h) ▸ hreads
    | byFile hgiven _ | byDefault hgiven _ => cases hgiven.symm.trans h
  · exact .byVariable h

theorem settles_of_not_given (h : field.given? environment = none) :
    Settles environment file field value ↔ (field.get? file).getD (field.get {}) = value := by
  constructor
  · intro hsettles
    cases hsettles with
    | byVariable hgiven _ => cases hgiven.symm.trans h
    | byFile _ hfile | byDefault _ hfile => rw [hfile]; rfl
  · rintro rfl
    cases hfile : field.get? file with
    | none => exact .byDefault h hfile
    | some value => exact .byFile h hfile

end Settles

/-! ## Variables -/

def entry : ConfigField → ConfigLayer.Variable
  | .listenAddress => .ofText "MCP_LISTEN_ADDRESS" fun text layer => put layer .listenAddress text
  | .grpcAddress => .ofText "MDDB_GRPC_ADDRESS" fun text layer => put layer .grpcAddress text
  | .restBaseUrl => .ofText "MDDB_REST_BASE_URL" fun text layer => put layer .restBaseUrl text
  | .transportMode => ⟨"MDDB_TRANSPORT_MODE", fun text layer =>
      (TransportMode.parse text).map fun mode => put layer .transportMode mode⟩
  | .timeoutSeconds => .ofNumber "MDDB_TIMEOUT_SECONDS" (UInt64.size - 1) fun n layer =>
      put layer .timeoutSeconds (UInt64.ofNat n)
  | .maxRetries => .ofNumber "MDDB_MAX_RETRIES" (UInt32.size - 1) fun n layer =>
      put layer .maxRetries (UInt32.ofNat n)

theorem knownVariables_eq : ConfigLayer.knownVariables = all.map entry := rfl

theorem name_entry (field : ConfigField) : field.entry.name = field.variableName := by
  cases field <;> rfl

theorem apply_ofNumber_eq_ok_iff {name text : String} {largest : Nat}
    {store : Nat → ConfigLayer → ConfigLayer} {layer after : ConfigLayer} :
    (ConfigLayer.Variable.ofNumber name largest store).apply text layer = .ok after ↔
      ∃ n : Nat, Decimal.Spells text.toList n ∧ n ≤ largest ∧ store n layer = after := by
  simp only [ConfigLayer.Variable.ofNumber]
  constructor
  · intro h
    split at h
    · rename_i n hread
      obtain ⟨value, hspells, hlargest, rfl⟩ := Decimal.parse_natural_iff.1 hread
      exact ⟨value, hspells, hlargest, Except.ok.inj h⟩
    · cases h
  · rintro ⟨n, hspells, hlargest, rfl⟩
    rw [Decimal.parse_natural_iff.2 ⟨n, hspells, hlargest, rfl⟩]
    rfl

/-- A variable sets its field to what its text is read as, and fails if that is nothing. -/
theorem apply_entry_eq_ok_iff {field : ConfigField} {text : String} {layer after : ConfigLayer} :
    field.entry.apply text layer = .ok after ↔
      ∃ value, field.Reads text value ∧ field.put layer value = after := by
  cases field with
  | listenAddress | grpcAddress | restBaseUrl =>
    simp [entry, ConfigLayer.Variable.ofText, Reads]
  | transportMode =>
    simp only [entry, Reads, map_eq_ok_iff, TransportMode.parse_eq_ok_iff]
  | timeoutSeconds =>
    rw [entry, apply_ofNumber_eq_ok_iff]
    constructor
    · rintro ⟨n, hspells, hlargest, hafter⟩
      have hvalue : (UInt64.ofNat n).toNat = n :=
        UInt64.toNat_ofNat_of_lt (Nat.lt_succ_of_le hlargest)
      exact ⟨UInt64.ofNat n, by rwa [Reads, hvalue], hafter⟩
    · rintro ⟨seconds, hspells, hafter⟩
      exact ⟨seconds.toNat, hspells, Nat.le_pred_of_lt seconds.toNat_lt,
        by rwa [UInt64.ofNat_toNat]⟩
  | maxRetries =>
    rw [entry, apply_ofNumber_eq_ok_iff]
    constructor
    · rintro ⟨n, hspells, hlargest, hafter⟩
      have hvalue : (UInt32.ofNat n).toNat = n :=
        UInt32.toNat_ofNat_of_lt (Nat.lt_succ_of_le hlargest)
      exact ⟨UInt32.ofNat n, by rwa [Reads, hvalue], hafter⟩
    · rintro ⟨count, hspells, hafter⟩
      exact ⟨count.toNat, hspells, Nat.le_pred_of_lt count.toNat_lt, by rwa [UInt32.ofNat_toNat]⟩

/-- Whether the variable of a field is read, if it is given. -/
def Readable (environment : String → Option String) (field : ConfigField) : Prop :=
  ∀ text, field.given? environment = some text → ∃ value, field.Reads text value

section Reading

variable {environment : String → Option String} {field : ConfigField} {text : String}
  {rest : List ConfigLayer.Variable} {layer : ConfigLayer}

-- One variable is passed over, sets its field, or ends the reading.

theorem readVariables_of_not_given (h : field.given? environment = none) :
    ConfigLayer.readVariables environment (field.entry :: rest) layer =
      ConfigLayer.readVariables environment rest layer := by
  rw [given?, ← name_entry] at h
  simp only [ConfigLayer.readVariables, h]

theorem readVariables_of_reads {value : field.Value} (h : field.given? environment = some text)
    (hreads : field.Reads text value) :
    ConfigLayer.readVariables environment (field.entry :: rest) layer =
      ConfigLayer.readVariables environment rest (field.put layer value) := by
  have happly : field.entry.apply text layer = .ok (field.put layer value) :=
    apply_entry_eq_ok_iff.2 ⟨value, hreads, rfl⟩
  rw [given?, ← name_entry] at h
  simp only [ConfigLayer.readVariables, h, happly]

/-- Variables behind one that cannot be read are not looked at. -/
theorem readVariables_of_unread (rest : List ConfigLayer.Variable) (layer : ConfigLayer)
    (h : field.given? environment = some text) (hunread : ¬ ∃ value, field.Reads text value) :
    ∃ fault, ConfigLayer.readVariables environment (field.entry :: rest) layer =
      (layer, .error fault) := by
  rw [given?, ← name_entry] at h
  cases happly : field.entry.apply text layer with
  | ok after =>
    obtain ⟨value, hreads, -⟩ := apply_entry_eq_ok_iff.1 happly
    exact absurd ⟨value, hreads⟩ hunread
  | error reason =>
    simp only [ConfigLayer.readVariables, h, happly]
    exact ⟨_, rfl⟩

/-- The reading ends well if there is no variable that cannot be read. -/
theorem outcome_readVariables_eq_ok_iff {fields : List ConfigField} {layer : ConfigLayer} :
    (ConfigLayer.readVariables environment (fields.map entry) layer).2 = .ok () ↔
      ∀ field ∈ fields, field.Readable environment := by
  induction fields generalizing layer with
  | nil => exact iff_of_true rfl nofun
  | cons field fields ih =>
    rw [List.map_cons, List.forall_mem_cons]
    cases hgiven : field.given? environment with
    | none =>
      rw [readVariables_of_not_given hgiven, ih]
      exact (and_iff_right fun text h => nomatch hgiven.symm.trans h).symm
    | some text =>
      by_cases hread : ∃ value, field.Reads text value
      · obtain ⟨value, hreads⟩ := hread
        rw [readVariables_of_reads hgiven hreads, ih]
        refine (and_iff_right fun other h => ⟨value, ?_⟩).symm
        rwa [← Option.some.inj (hgiven.symm.trans h)]
      · obtain ⟨fault, hfault⟩ :=
          readVariables_of_unread (fields.map entry) layer hgiven hread
        rw [hfault]
        exact iff_of_false nofun fun h => hread (h.1 text hgiven)

/-- A field keeps its value if its own variable is not among those that are read, whatever the
others are and however the reading ends. -/
theorem get?_readVariables_of_unset {fields : List ConfigField} {layer : ConfigLayer}
    (h : field ∈ fields → field.given? environment = none) :
    field.get? (ConfigLayer.readVariables environment (fields.map entry) layer).1 =
      field.get? layer := by
  induction fields generalizing layer with
  | nil => rfl
  | cons next fields ih =>
    have hrest : field ∈ fields → field.given? environment = none :=
      fun hmem => h (.tail next hmem)
    rw [List.map_cons]
    cases hgiven : next.given? environment with
    | none => rw [readVariables_of_not_given hgiven, ih hrest]
    | some text =>
      have hne : field ≠ next := by
        rintro rfl
        cases hgiven.symm.trans (h List.mem_cons_self)
      by_cases hread : ∃ value, next.Reads text value
      · obtain ⟨value, hreads⟩ := hread
        rw [readVariables_of_reads hgiven hreads, ih hrest, get?_put_of_ne layer hne]
      · obtain ⟨fault, hfault⟩ :=
          readVariables_of_unread (fields.map entry) layer hgiven hread
        rw [hfault]

/-- A field gets the value of its own variable. -/
theorem get?_readVariables_of_reads {fields : List ConfigField} {layer : ConfigLayer}
    {value : field.Value} (hnodup : fields.Nodup) (hmem : field ∈ fields)
    (hreadable : ∀ field ∈ fields, field.Readable environment)
    (hgiven : field.given? environment = some text) (hreads : field.Reads text value) :
    field.get? (ConfigLayer.readVariables environment (fields.map entry) layer).1 =
      some value := by
  induction fields generalizing layer with
  | nil => cases hmem
  | cons next fields ih =>
    obtain ⟨hfresh, hnodup⟩ := List.nodup_cons.1 hnodup
    obtain ⟨hnext, hreadable⟩ := List.forall_mem_cons.1 hreadable
    rw [List.map_cons]
    obtain rfl | hmem := List.mem_cons.1 hmem
    · -- The other variables are those of other fields, and leave this one as it is.
      rw [readVariables_of_reads hgiven hreads,
        get?_readVariables_of_unset fun hmem => absurd hmem hfresh, get?_put_self]
    · cases hother : next.given? environment with
      | none =>
        rw [readVariables_of_not_given hother]
        exact ih hnodup hmem hreadable
      | some text =>
        obtain ⟨found, hfound⟩ := hnext text hother
        rw [readVariables_of_reads hother hfound]
        exact ih hnodup hmem hreadable

end Reading

/-! ## Layers -/

/-- The defaults, under a file, under the variables of an environment. -/
def merged (environment : String → Option String) (file : ConfigLayer) : Config :=
  (({} : Config).overlay file).overlay (ConfigLayer.ofEnvironment environment).1

section Merging

variable {environment : String → Option String} {file : ConfigLayer}

theorem outcome_ofEnvironment_eq_ok_iff :
    (ConfigLayer.ofEnvironment environment).2 = .ok () ↔
      ∀ field : ConfigField, field.Readable environment := by
  rw [ConfigLayer.ofEnvironment, knownVariables_eq, outcome_readVariables_eq_ok_iff]
  exact forall_congr' fun field => imp_iff_right field.mem_all

/-- Only the variables of a mode or a number may fail to be read. -/
theorem readable_iff :
    (∀ field : ConfigField, field.Readable environment) ↔
      ∀ field ∈ [transportMode, timeoutSeconds, maxRetries], field.Readable environment := by
  refine ⟨fun h field _ => h field, fun h field => ?_⟩
  cases field with
  | listenAddress | grpcAddress | restBaseUrl => exact fun text _ => ⟨text, rfl⟩
  | transportMode | timeoutSeconds | maxRetries => exact h _ (by decide)

/-- If every variable is read, the fields of the layers together are those of the topmost ones. -/
theorem get_merged_eq_iff {field : ConfigField} {value : field.Value}
    (h : ∀ field : ConfigField, field.Readable environment) :
    field.get (merged environment file) = value ↔ Settles environment file field value := by
  have hreadable : ∀ field ∈ all, field.Readable environment := fun field _ => h field
  rw [merged, get_overlay, get_overlay, ConfigLayer.ofEnvironment, knownVariables_eq]
  cases hgiven : field.given? environment with
  | none =>
    rw [settles_of_not_given hgiven, get?_readVariables_of_unset fun _ => hgiven]
    cases field <;> rfl
  | some text =>
    obtain ⟨found, hfound⟩ := h field text hgiven
    rw [settles_of_given hgiven,
      get?_readVariables_of_reads (by decide) field.mem_all hreadable hgiven hfound]
    exact ⟨fun hsame => hsame ▸ hfound, fun hreads => hfound.unique hreads⟩

theorem readable_of_settles {config : Config} {field : ConfigField}
    (h : Settles environment file field (field.get config)) : field.Readable environment :=
  fun _ hgiven => ⟨field.get config, (settles_of_given hgiven).1 h⟩

theorem eq_merged_of_settles {config : Config}
    (h : ∀ field, Settles environment file field (field.get config)) :
    config = merged environment file :=
  config_ext fun field =>
    ((get_merged_eq_iff fun field => readable_of_settles (h field)).2 (h field)).symm

theorem settles_merged (h : ∀ field : ConfigField, field.Readable environment)
    (field : ConfigField) : Settles environment file field (field.get (merged environment file)) :=
  (get_merged_eq_iff h).1 rfl

/-- The reading of a file, the reading of the variables and the check of both come in that order. -/
theorem load_eq {path : String} {contents : ConfigFile}
    (h : ConfigLayer.ofFile path contents = .ok file) :
    Config.load path contents environment =
      (ConfigLayer.ofEnvironment environment).2.bind fun _ =>
        (merged environment file).validate.bind fun _ => .ok (merged environment file) := by
  rw [Config.load, h]
  rfl

/-- A configuration is loaded if the file can be read, the layers settle it and it is valid. -/
theorem load_eq_ok_iff {path : String} {contents : ConfigFile} {config : Config} :
    Config.load path contents environment = .ok config ↔
      ∃ file, ConfigLayer.ofFile path contents = .ok file ∧
        (∀ field, Settles environment file field (field.get config)) ∧
        config.validate = .ok () := by
  constructor
  · intro h
    cases hfile : ConfigLayer.ofFile path contents with
    | error fault =>
      rw [Config.load, hfile] at h
      cases h
    | ok file =>
      rw [load_eq hfile] at h
      obtain ⟨_, hread, h⟩ := bind_eq_ok_iff.1 h
      obtain ⟨_, hvalid, h⟩ := bind_eq_ok_iff.1 h
      obtain rfl := Except.ok.inj h
      exact ⟨file, rfl, settles_merged (outcome_ofEnvironment_eq_ok_iff.1 hread), hvalid⟩
  · rintro ⟨file, hfile, hsettles, hvalid⟩
    have hread : (ConfigLayer.ofEnvironment environment).2 = .ok () :=
      outcome_ofEnvironment_eq_ok_iff.2 fun field => readable_of_settles (hsettles field)
    obtain rfl := eq_merged_of_settles hsettles
    rw [load_eq hfile, hread]
    simp only [Except.bind, hvalid]

/-- What is settled depends on the variable of the field and, if there is none, on what the file
says of the field. -/
theorem settles_congr {otherEnvironment : String → Option String} {other : ConfigLayer}
    {field : ConfigField} {value : field.Value}
    (hgiven : field.given? environment = field.given? otherEnvironment)
    (hfile : field.given? environment = none → field.get? file = field.get? other) :
    Settles environment file field value ↔ Settles otherEnvironment other field value := by
  cases htext : field.given? environment with
  | none =>
    rw [settles_of_not_given htext, settles_of_not_given (hgiven.symm.trans htext), hfile htext]
  | some text => rw [settles_of_given htext, settles_of_given (hgiven.symm.trans htext)]

theorem settles_unique {field : ConfigField} {first second : field.Value}
    (hfirst : Settles environment file field first)
    (hsecond : Settles environment file field second) : first = second := by
  cases hgiven : field.given? environment with
  | none =>
    rw [settles_of_not_given hgiven] at hfirst hsecond
    exact hfirst.symm.trans hsecond
  | some text =>
    rw [settles_of_given hgiven] at hfirst hsecond
    exact hfirst.unique hsecond

/-- What a file says of a field with a variable has no part in the outcome, nor in a failure. -/
theorem load_congr {path otherPath : String} {contents otherContents : ConfigFile}
    {other : ConfigLayer} (hfile : ConfigLayer.ofFile path contents = .ok file)
    (hother : ConfigLayer.ofFile otherPath otherContents = .ok other)
    (h : ∀ field : ConfigField, field.given? environment = none →
      field.get? file = field.get? other) :
    Config.load path contents environment = Config.load otherPath otherContents environment := by
  rw [load_eq hfile, load_eq hother]
  cases hread : (ConfigLayer.ofEnvironment environment).2 with
  | error fault => rfl
  | ok _ =>
    have hreadable : ∀ field : ConfigField, field.Readable environment :=
      outcome_ofEnvironment_eq_ok_iff.1 hread
    have hsame : merged environment file = merged environment other :=
      eq_merged_of_settles fun field =>
        (settles_congr rfl (h field)).1 (settles_merged hreadable field)
    rw [hsame]

end Merging

end ConfigField

/-- A configuration is loaded if the file and the variables are read and what they make together is
valid, and each of its fields is that of the topmost layer that sets it: its variable, if that is
set and not empty, the file or the defaults.  There is one such configuration if the variables of
the mode and of the numbers are read, and none if not.  So what a file says of a field with a
variable has no part in the outcome, and the variable of one field has none in another. -/
theorem config_takes_topmost_layers (path : String) (file : ConfigFile)
    (environment : String → Option String) :
    (∀ config, Config.load path file environment = .ok config ↔
      ∃ layer, ConfigLayer.ofFile path file = .ok layer ∧
        (∀ field, ConfigField.Settles environment layer field (field.get config)) ∧
        config.validate = .ok ()) ∧
    (∀ layer, (∃! config : Config,
        ∀ field, ConfigField.Settles environment layer field (field.get config)) ↔
      ∀ field ∈ [ConfigField.transportMode, .timeoutSeconds, .maxRetries], ∀ text,
        field.given? environment = some text → ∃ value, field.Reads text value) ∧
    (∀ layer otherPath otherFile otherLayer, ConfigLayer.ofFile path file = .ok layer →
      ConfigLayer.ofFile otherPath otherFile = .ok otherLayer →
      (∀ field : ConfigField, field.given? environment = none →
        field.get? layer = field.get? otherLayer) →
      Config.load path file environment = Config.load otherPath otherFile environment) ∧
    ∀ otherEnvironment config otherConfig, Config.load path file environment = .ok config →
      Config.load path file otherEnvironment = .ok otherConfig →
      ∀ field : ConfigField, field.given? environment = field.given? otherEnvironment →
        field.get config = field.get otherConfig := by
  refine ⟨fun config => ConfigField.load_eq_ok_iff, fun layer => ?_,
    fun layer otherPath otherFile otherLayer => ConfigField.load_congr, ?_⟩
  · refine Iff.trans ?_ ConfigField.readable_iff
    constructor
    · rintro ⟨config, hsettles, -⟩ field
      exact ConfigField.readable_of_settles (hsettles field)
    · intro hreadable
      exact ⟨ConfigField.merged environment layer, ConfigField.settles_merged hreadable,
        fun _ => ConfigField.eq_merged_of_settles⟩
  · intro otherEnvironment config otherConfig hload hother field hgiven
    obtain ⟨layer, hlayer, hsettles, -⟩ := ConfigField.load_eq_ok_iff.1 hload
    obtain ⟨_, hotherLayer, hotherSettles, -⟩ := ConfigField.load_eq_ok_iff.1 hother
    obtain rfl := Except.ok.inj (hlayer.symm.trans hotherLayer)
    exact ConfigField.settles_unique (hsettles field)
      ((ConfigField.settles_congr hgiven fun _ => rfl).2 (hotherSettles field))

/-- A file with a listen address that the check would refuse. -/
def nowhereFile : ConfigFile :=
  .contents (utf8Bytes "mcp: {listenAddress: nowhere}\nmddb: {maxRetries: 7}")

/-- Variables for the listen address and, if there is a text for it, for the timeout. -/
def listenVariables (timeout? : Option String) (name : String) : Option String :=
  if name = "MCP_LISTEN_ADDRESS" then some "127.0.0.1:9001"
  else if name = "MDDB_TIMEOUT_SECONDS" then timeout?
  else none

/-- The listen address does no harm in the file since its variable is set, and the variable of the
timeout changes no other field. -/
theorem listen_variable_covers_file :
    let config : Config := { listenAddress := "127.0.0.1:9001", maxRetries := 7 }
    let other : ConfigFile := .contents (utf8Bytes "mddb: {maxRetries: 7}")
    Config.load "config.yaml" nowhereFile (listenVariables none) = .ok config ∧
    Config.load "config.yaml" nowhereFile (listenVariables none) =
      Config.load "config.yaml" other (listenVariables none) ∧
    Config.load "config.yaml" nowhereFile (listenVariables (some "9")) =
      .ok { config with timeoutSeconds := 9 } ∧
    ∀ field, field ≠ ConfigField.timeoutSeconds →
      field.get config = field.get { config with timeoutSeconds := 9 } := by
  intro config other
  obtain ⟨hloads, -, hcovered, happart⟩ :=
    config_takes_topmost_layers "config.yaml" nowhereFile (listenVariables none)
  have hlayer : ConfigLayer.ofFile "config.yaml" nowhereFile =
      .ok { listenAddress := some "nowhere", maxRetries := some 7 } := by
    decide +kernel
  have hother : ConfigLayer.ofFile "config.yaml" other = .ok { maxRetries := some 7 } := by
    decide +kernel
  have hvalid : config.validate = .ok () := by decide +kernel
  have hload : Config.load "config.yaml" nowhereFile (listenVariables none) = .ok config := by
    refine (hloads config).2 ⟨_, hlayer, fun field => ?_, hvalid⟩
    cases field with
    | listenAddress => exact .byVariable rfl rfl
    | maxRetries => exact .byFile rfl rfl
    | _ => exact .byDefault rfl rfl
  have hlater : Config.load "config.yaml" nowhereFile (listenVariables (some "9")) =
      .ok { config with timeoutSeconds := 9 } := by
    decide +kernel
  refine ⟨hload, ?_, hlater, fun field hfield => ?_⟩
  · refine hcovered _ _ _ _ hlayer hother fun field hgiven => ?_
    cases field with
    | listenAddress => cases hgiven
    | _ => rfl
  · refine happart _ _ _ hload hlater field ?_
    cases field with
    | timeoutSeconds => exact absurd rfl hfield
    | _ => rfl

end DocBridge

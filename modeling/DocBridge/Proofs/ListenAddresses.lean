import DocBridge.Proofs.ConfigLayers
import DocBridge.Proofs.InsertedOptions

/-!
# The address to listen on

An address that is given as an argument comes on top of what the file and the environment say, but
only after these have been found valid by themselves, with an address of their own.  The variable of
the address comes on top before anything is checked.  So the argument does what the variable does if
the layers below have a valid address.  If they have none, the argument cannot make up for it.
-/

namespace DocBridge

/-! ## Layers below an address -/

namespace ConfigField

variable {environment setting : String → Option String} {path address : String}
  {contents : ConfigFile} {config : Config}

/-- The address to listen on that a file and an environment settle is one, if they can be read. -/
def HasListenAddress (environment : String → Option String) (path : String)
    (contents : ConfigFile) : Prop :=
  ∀ file address, ConfigLayer.ofFile path contents = .ok file →
    Settles environment file .listenAddress address → (SocketAddress.ofText? address).isSome

theorem exists_settles_listenAddress (environment : String → Option String) (file : ConfigLayer) :
    ∃ address, Settles environment file .listenAddress address := by
  cases hgiven : given? environment .listenAddress with
  | none => exact ⟨_, (settles_of_not_given hgiven).2 rfl⟩
  | some text => exact ⟨text, .byVariable hgiven rfl⟩

/-- Where a configuration is loaded, its layers have an address to listen on. -/
theorem hasListenAddress_of_load (h : Config.load path contents environment = .ok config) :
    HasListenAddress environment path contents := by
  obtain ⟨file, hfile, hsettles, hvalid⟩ := load_eq_ok_iff.1 h
  intro other address hother haddress
  obtain rfl := Except.ok.inj (hfile.symm.trans hother)
  rw [settles_unique haddress (hsettles .listenAddress)]
  exact (Config.validate_eq_ok_iff.1 hvalid).1

section Setting

variable (hset : given? setting .listenAddress = some address)
  (hsame : ∀ field ≠ ConfigField.listenAddress, field.given? setting = field.given? environment)

include hset hsame

/-- Under an environment with another address, every field but that settles to what it was. -/
theorem settles_setting_iff {file : ConfigLayer} :
    (∀ field, Settles setting file field (field.get config)) ↔
      config.listenAddress = address ∧
        ∀ field ≠ ConfigField.listenAddress,
          Settles environment file field (field.get config) := by
  have hothers : ∀ field ≠ ConfigField.listenAddress,
      (Settles setting file field (field.get config) ↔
        Settles environment file field (field.get config)) :=
    fun field hne => settles_congr (hsame field hne) fun _ => rfl
  have hlisten : Settles setting file .listenAddress config.listenAddress ↔
      config.listenAddress = address := settles_of_given hset
  constructor
  · intro h
    exact ⟨hlisten.1 (h .listenAddress), fun field hne => (hothers field hne).1 (h field)⟩
  · rintro ⟨haddress, h⟩ field
    by_cases hfield : field = .listenAddress
    · subst hfield
      exact hlisten.2 haddress
    · exact (hothers field hfield).2 (h field hfield)

/-- A configuration that is valid both below an address and with it is one that is valid with the
address set by its variable, if there is an address below. -/
theorem exists_load_below_iff :
    (∃ below, Config.load path contents environment = .ok below ∧
        { below with listenAddress := address } = config ∧ config.validate = .ok ()) ↔
      HasListenAddress environment path contents ∧
        Config.load path contents setting = .ok config := by
  constructor
  · rintro ⟨below, hbelow, rfl, hvalid⟩
    refine ⟨hasListenAddress_of_load hbelow, ?_⟩
    obtain ⟨file, hfile, hsettles, -⟩ := load_eq_ok_iff.1 hbelow
    refine load_eq_ok_iff.2 ⟨file, hfile, (settles_setting_iff hset hsame).2 ⟨rfl, ?_⟩, hvalid⟩
    intro field hne
    cases field with
    | listenAddress => exact absurd rfl hne
    | _ => exact hsettles _
  · rintro ⟨hbelow, hload⟩
    obtain ⟨file, hfile, hsettles, hvalid⟩ := load_eq_ok_iff.1 hload
    obtain ⟨rfl, hothers⟩ := (settles_setting_iff hset hsame).1 hsettles
    obtain ⟨lower, hlower⟩ := exists_settles_listenAddress environment file
    refine ⟨{ config with listenAddress := lower }, load_eq_ok_iff.2 ⟨file, hfile, ?_, ?_⟩, rfl,
      hvalid⟩
    · intro field
      cases field with
      | listenAddress => exact hlower
      | _ => exact hothers _ nofun
    · -- The check of the lower address is the only one that the upper one does not stand for.
      exact Config.validate_eq_ok_iff.2
        ⟨hbelow file lower hfile hlower, (Config.validate_eq_ok_iff.1 hvalid).2⟩

end Setting

end ConfigField

namespace CommandLine

variable {σ : Type}

/-! ## Reports -/

/-- Reports that are the same, but for what they say about a failure before anything is served. -/
inductive Report.Alike : Report → Report → Prop where
  | same (report : Report) : Alike report report
  | bothFailed (first second : String) : Alike (.failed first) (.failed second)

def Report.serves : Report → Bool
  | .listening _ | .served _ _ => true
  | _ => false

namespace Report.Alike

variable {first second third : Report}

theorem exitCode_eq (h : first.Alike second) : first.exitCode = second.exitCode := by
  cases h <;> rfl

theorem serves_eq (h : first.Alike second) : first.serves = second.serves := by
  cases h <;> rfl

theorem eq_of_serves (h : first.Alike second) (hserves : second.serves = true) :
    first = second := by
  cases h with
  | same => rfl
  | bothFailed => cases hserves

theorem symm (h : first.Alike second) : second.Alike first := by
  cases h with
  | same => exact .same _
  | bothFailed left right => exact .bothFailed right left

theorem trans (h : first.Alike second) (hnext : second.Alike third) : first.Alike third := by
  cases h with
  | same => exact hnext
  | bothFailed left middle =>
    cases hnext with
    | same => exact .bothFailed left middle
    | bothFailed _ right => exact .bothFailed left right

end Report.Alike

/-- The report of what is done with something that may not be there. -/
def Report.of {α : Type} (found : Except String α) (next : α → Report) : Report :=
  match found with
  | .error message => .failed message
  | .ok value => next value

/-- Reports of outcomes that succeed alike are alike, however they fail. -/
theorem Report.alike_of {α : Type} {first second : Except String α}
    (h : ∀ value, first = .ok value ↔ second = .ok value) (next : α → Report) :
    (of first next).Alike (of second next) := by
  cases first with
  | ok value =>
    rw [(h value).1 rfl]
    exact .same _
  | error left =>
    cases second with
    | ok value => cases (h value).2 rfl
    | error right => exact .bothFailed left right

def Options.reportOn (options : Options) (wires : Wires σ) (input : InputStream) (world : σ)
    (config : Config) : Report :=
  .of (openClient wires config) fun client =>
    if options.stdio then
      let (written, ending, _) :=
        serve client.transport input {} { world := ({ world } : Grpc.Channel σ) }
      .served written.bytes ending
    else .listening config.listenAddress

def Surroundings.report (around : Surroundings σ) (input : InputStream) (world : σ) :
    Request → Report
  | .help => .help
  | .version => .version
  | .refused => .refused
  | .run options =>
    .of (options.load around.environment around.files)
      (options.reportOn around.wires input world)

theorem run_eq (around : Surroundings σ) (arguments : List String) (input : InputStream)
    (world : σ) :
    run around arguments input world =
      around.report input world (Request.ofArguments arguments) := by
  cases hrequest : Request.ofArguments arguments with
  | help | version | refused => simp only [run, start, hrequest, Surroundings.report]
  | run options =>
    cases hload : options.load around.environment around.files with
    | error message => simp only [run, start, hrequest, hload, Surroundings.report, Report.of]
    | ok config =>
      cases hclient : openClient around.wires config <;>
        simp only [run, start, hrequest, hload, hclient, Surroundings.report, Report.of,
          Options.reportOn]

/-- A run that is asked for and does not serve has failed. -/
theorem exists_failed_of_serves_eq_false {around : Surroundings σ} {arguments : List String}
    {options : Options} (hrequest : Request.ofArguments arguments = .run options)
    {input : InputStream} {world : σ} (h : (run around arguments input world).serves = false) :
    ∃ reason, run around arguments input world = .failed reason := by
  rw [run_eq, hrequest] at h ⊢
  simp only [Surroundings.report] at h ⊢
  cases hload : options.load around.environment around.files with
  | error reason => exact ⟨reason, rfl⟩
  | ok config =>
    rw [hload] at h
    simp only [Report.of, Options.reportOn] at h ⊢
    cases hclient : openClient around.wires config with
    | error reason => exact ⟨reason, rfl⟩
    | ok client =>
      rw [hclient] at h
      dsimp only at h
      split at h <;> cases h

/-! ## The option and the variable -/

def Surroundings.listeningOn (around : Surroundings σ) (address : String) : Surroundings σ :=
  { around with
    environment := fun name =>
      if name = "MCP_LISTEN_ADDRESS" then some address else around.environment name }

/-- The file and the environment have an address to listen on, if the arguments lead to them and
they can be read. -/
def Surroundings.HasListenAddress (around : Surroundings σ) (arguments : List String) : Prop :=
  ∀ options, Request.ofArguments arguments = .run options →
    ConfigField.HasListenAddress around.environment (options.configPath around.environment)
      (around.files (options.configPath around.environment))

theorem Surroundings.hasListenAddress_of_load {around : Surroundings σ}
    {arguments : List String} {options : Options} (config : Config)
    (hrequest : Request.ofArguments arguments = .run options)
    (hload : Config.load (options.configPath around.environment)
      (around.files (options.configPath around.environment)) around.environment = .ok config) :
    around.HasListenAddress arguments := by
  intro other hother
  obtain rfl := Request.run.inj (hrequest.symm.trans hother)
  exact ConfigField.hasListenAddress_of_load hload

theorem not_hasListenAddress_iff {around : Surroundings σ} {arguments : List String} :
    ¬ around.HasListenAddress arguments ↔
      ∃ options, Request.ofArguments arguments = .run options ∧
        ¬ ConfigField.HasListenAddress around.environment
          (options.configPath around.environment)
          (around.files (options.configPath around.environment)) := by
  simp only [Surroundings.HasListenAddress, not_forall, exists_prop]

def withoutListen (layer : ConfigLayer) : ConfigLayer := { layer with listenAddress := none }

theorem get?_withoutListen (layer : ConfigLayer) {field : ConfigField}
    (h : field ≠ .listenAddress) :
    field.get? (withoutListen layer) = field.get? layer := by
  cases field with
  | listenAddress => exact absurd rfl h
  | _ => rfl

/-- Surroundings that may differ in the address to listen on that the files and the variable say,
and in nothing else. -/
structure Surroundings.SameButListen (around other : Surroundings σ) : Prop where
  wires : around.wires = other.wires
  environment : ∀ name ≠ "MCP_LISTEN_ADDRESS", around.environment name = other.environment name
  files : ∀ path,
    (ConfigLayer.ofFile path (around.files path)).map withoutListen =
      (ConfigLayer.ofFile path (other.files path)).map withoutListen

section Setting

variable {around : Surroundings σ} {address : String} {options : Options}

theorem given?_listeningOn_self (haddress : address ≠ "") :
    ConfigField.given? (around.listeningOn address).environment .listenAddress = some address := by
  simp [ConfigField.given?, ConfigField.variableName, Surroundings.listeningOn, haddress]

theorem given?_listeningOn_of_ne {field : ConfigField} (h : field ≠ .listenAddress) :
    field.given? (around.listeningOn address).environment = field.given? around.environment := by
  have hname : field.variableName ≠ "MCP_LISTEN_ADDRESS" := by
    cases field with
    | listenAddress => exact absurd rfl h
    | _ => decide
  simp only [ConfigField.given?, Surroundings.listeningOn, if_neg hname]

theorem configPath_listeningOn :
    options.configPath (around.listeningOn address).environment =
      options.configPath around.environment := by
  have hname : configVariable ≠ "MCP_LISTEN_ADDRESS" := by decide
  simp only [Options.configPath, Surroundings.listeningOn, if_neg hname]

theorem load_eq_ok_iff_of_none (h : options.listen = none)
    {environment : String → Option String} {files : String → ConfigFile} {config : Config} :
    options.load environment files = .ok config ↔
      Config.load (options.configPath environment) (files (options.configPath environment))
        environment = .ok config := by
  cases hload : Config.load (options.configPath environment)
      (files (options.configPath environment)) environment <;>
    simp [Options.load, h, hload]

/-- What is below the option is loaded and validated by itself, before the address is replaced. -/
theorem load_listeningOn_eq_ok_iff
    {environment : String → Option String} {files : String → ConfigFile} {config : Config} :
    (options.listeningOn (some address)).load environment files = .ok config ↔
      ∃ below, Config.load (options.configPath environment)
          (files (options.configPath environment)) environment = .ok below ∧
        { below with listenAddress := address } = config ∧ config.validate = .ok () := by
  have hpath : (options.listeningOn (some address)).configPath environment =
      options.configPath environment := rfl
  have hlisten : (options.listeningOn (some address)).listen = some address := rfl
  cases hbelow : Config.load (options.configPath environment)
      (files (options.configPath environment)) environment with
  | error fault => simp [Options.load, hpath, hbelow]
  | ok below =>
    cases hvalid : ({ below with listenAddress := address } : Config).validate with
    | error fault =>
      simp only [Options.load, hpath, hlisten, hbelow, hvalid]
      refine iff_of_false nofun ?_
      rintro ⟨_, ⟨⟩, rfl, hother⟩
      cases hvalid.symm.trans hother
    | ok _ =>
      simp only [Options.load, hpath, hlisten, hbelow, hvalid]
      constructor
      · rintro ⟨⟩
        exact ⟨below, rfl, rfl, hvalid⟩
      · rintro ⟨_, ⟨⟩, rfl, -⟩
        rfl

/-- With the option, a configuration is loaded that the variable leads to, unless there is no
address below. -/
theorem load_option_iff_variable (hlisten : options.listen = none) (haddress : address ≠ "")
    {config : Config} :
    (options.listeningOn (some address)).load around.environment around.files = .ok config ↔
      ConfigField.HasListenAddress around.environment (options.configPath around.environment)
          (around.files (options.configPath around.environment)) ∧
        options.load (around.listeningOn address).environment around.files = .ok config := by
  rw [load_listeningOn_eq_ok_iff, load_eq_ok_iff_of_none hlisten, configPath_listeningOn]
  exact ConfigField.exists_load_below_iff (given?_listeningOn_self haddress) fun _ =>
    given?_listeningOn_of_ne

end Setting

section Runs

variable {around other : Surroundings σ} {address : String} {options : Options}

namespace Surroundings.SameButListen

theorem environment_eq (h : around.SameButListen other) :
    (around.listeningOn address).environment = (other.listeningOn address).environment := by
  funext name
  simp only [Surroundings.listeningOn]
  split
  · rfl
  · rename_i hname
    exact h.environment name hname

/-- If the variable is set, the address that a file says has no part in the configuration. -/
theorem load_file_eq (h : around.SameButListen other) (haddress : address ≠ "") (path : String) :
    Config.load path (around.files path) (around.listeningOn address).environment =
      Config.load path (other.files path) (around.listeningOn address).environment := by
  obtain hsame | ⟨layer, otherLayer, hlayer, hother, hlayers⟩ :=
    eq_or_exists_ok_of_map_eq_map (h.files path)
  · rw [Config.load, Config.load, hsame]
  · refine ConfigField.load_congr hlayer hother fun field hgiven => ?_
    have hne : field ≠ .listenAddress := by
      rintro rfl
      cases (given?_listeningOn_self haddress).symm.trans hgiven
    rw [← get?_withoutListen layer hne, hlayers, get?_withoutListen otherLayer hne]

theorem load_eq_ok_iff (h : around.SameButListen other) (hlisten : options.listen = none)
    (haddress : address ≠ "") {config : Config} :
    options.load (around.listeningOn address).environment around.files = .ok config ↔
      options.load (other.listeningOn address).environment other.files = .ok config := by
  rw [← h.environment_eq, load_eq_ok_iff_of_none hlisten, load_eq_ok_iff_of_none hlisten,
    h.load_file_eq haddress]

end Surroundings.SameButListen

/-- What is served with a variable set is served in all surroundings that differ in it only. -/
theorem alike_of_sameButListen (h : around.SameButListen other) (haddress : address ≠ "")
    {arguments : List String} (hothers : ∀ argument ∈ arguments, ¬ NamesListen argument)
    (input : InputStream) (world : σ) :
    (run (around.listeningOn address) arguments input world).Alike
      (run (other.listeningOn address) arguments input world) := by
  rw [run_eq, run_eq]
  cases hrequest : Request.ofArguments arguments with
  | help | version | refused => exact .same _
  | run options =>
    have hlisten : options.listen = none := listen_of_read hothers hrequest
    have hwires : (around.listeningOn address).wires = (other.listeningOn address).wires := h.wires
    simp only [Surroundings.report, hwires]
    exact Report.alike_of (fun _ => h.load_eq_ok_iff hlisten haddress) _

section Inserted

variable {front written back : List String} (hwritten : SetsListen address written)
  (hfront : TakesMore front) (hothers : ∀ argument ∈ front ++ back, ¬ NamesListen argument)
  (input : InputStream) (world : σ)

include hwritten hfront hothers

/-- The option changes the request that the other arguments make, and nothing else. -/
theorem run_inserted :
    run around (front ++ (written ++ back)) input world =
      around.report input world
        ((Request.ofArguments (front ++ back)).listeningOn (some address)) := by
  rw [run_eq]
  exact congrArg _ (read_append_written hwritten hfront hothers rfl)

theorem alike_of_hasListenAddress (haddress : address ≠ "")
    (h : around.HasListenAddress (front ++ back)) :
    (run around (front ++ (written ++ back)) input world).Alike
      (run (around.listeningOn address) (front ++ back) input world) := by
  rw [run_inserted hwritten hfront hothers, run_eq]
  cases hrequest : Request.ofArguments (front ++ back) with
  | help | version | refused => exact .same _
  | run options =>
    have hlisten : options.listen = none := listen_of_read hothers hrequest
    refine Report.alike_of (fun config => ?_) _
    rw [load_option_iff_variable hlisten haddress, and_iff_right (h options hrequest)]
    rfl

theorem exists_failed_of_not_hasListenAddress (haddress : address ≠ "")
    (h : ¬ around.HasListenAddress (front ++ back)) :
    ∃ reason, run around (front ++ (written ++ back)) input world = .failed reason := by
  obtain ⟨options, hrequest, h⟩ := not_hasListenAddress_iff.1 h
  have hlisten : options.listen = none := listen_of_read hothers hrequest
  rw [run_inserted hwritten hfront hothers, hrequest]
  cases hload : (options.listeningOn (some address)).load around.environment around.files with
  | error reason =>
    refine ⟨reason, ?_⟩
    simp only [Request.listeningOn, Surroundings.report, hload, Report.of]
  | ok config => exact absurd ((load_option_iff_variable hlisten haddress).1 hload).1 h

end Inserted

end Runs

/-- If the layers below the arguments have a valid address, or cannot be read, the option for the
address to listen on does what its variable does, except that a failure may be told in other words;
and it makes no difference what address they have.  If they have one that is no address, the run
with the option fails, even where that with the variable serves. -/
theorem listen_option_needs_address_below (around : Surroundings σ)
    {front written back : List String} {address : String} (haddress : address ≠ "")
    (hwritten : SetsListen address written) (hfront : TakesMore front)
    (hothers : ∀ argument ∈ front ++ back, ¬ NamesListen argument) (input : InputStream)
    (world : σ) :
    ((run around (front ++ (written ++ back)) input world).Alike
        (run (around.listeningOn address) (front ++ back) input world) ↔
      around.HasListenAddress (front ++ back) ∨
        (run (around.listeningOn address) (front ++ back) input world).serves = false) ∧
    (around.HasListenAddress (front ++ back) →
      (run around (front ++ (written ++ back)) input world).exitCode =
        (run (around.listeningOn address) (front ++ back) input world).exitCode) ∧
    (¬ around.HasListenAddress (front ++ back) →
      ∃ reason, run around (front ++ (written ++ back)) input world = .failed reason) ∧
    ∀ other : Surroundings σ, around.SameButListen other →
      around.HasListenAddress (front ++ back) → other.HasListenAddress (front ++ back) →
      (run around (front ++ (written ++ back)) input world).Alike
        (run other (front ++ (written ++ back)) input world) := by
  have hvalid (around : Surroundings σ) (h : around.HasListenAddress (front ++ back)) :
      (run around (front ++ (written ++ back)) input world).Alike
        (run (around.listeningOn address) (front ++ back) input world) :=
    alike_of_hasListenAddress hwritten hfront hothers input world haddress h
  have hinvalid (h : ¬ around.HasListenAddress (front ++ back)) :
      ∃ reason, run around (front ++ (written ++ back)) input world = .failed reason :=
    exists_failed_of_not_hasListenAddress hwritten hfront hothers input world haddress h
  refine ⟨⟨fun halike => ?_, fun hcases => ?_⟩, fun h => (hvalid around h).exitCode_eq, hinvalid,
    fun other hsame h hother => ?_⟩
  · by_cases h : around.HasListenAddress (front ++ back)
    · exact .inl h
    · obtain ⟨reason, hfailed⟩ := hinvalid h
      refine .inr (halike.serves_eq.symm.trans ?_)
      rw [hfailed]
      rfl
  · by_cases h : around.HasListenAddress (front ++ back)
    · exact hvalid around h
    · -- Layers are only looked at for a run, so that what does not serve has failed.
      obtain ⟨options, hrequest, -⟩ := not_hasListenAddress_iff.1 h
      obtain ⟨reason, hfailed⟩ := hinvalid h
      obtain ⟨other, hother⟩ :=
        exists_failed_of_serves_eq_false hrequest (hcases.resolve_left h)
      rw [hfailed, hother]
      exact .bothFailed reason other
  · have hset := alike_of_sameButListen hsame haddress hothers input world
    exact (hvalid around h).trans (hset.trans (hvalid other hother).symm)

/-- Surroundings with a file that says what address to listen on, without variables and a store. -/
def Surroundings.ofAddress (path address : String) : Surroundings Unit where
  environment _ := none
  files other :=
    if other = path then .contents (utf8Bytes ("mcp:\n  listenAddress: \"" ++ address ++ "\""))
    else .absent
  wires := Wires.unreachable

theorem listen_option_overrides_loopback :
    ("127.0.0.1:9100" ≠ "" ∧ SetsListen "127.0.0.1:9100" ["--listen", "127.0.0.1:9100"] ∧
      TakesMore ["-v"] ∧ ∀ argument ∈ ["-v", "--config=bridge.yaml"], ¬ NamesListen argument) ∧
    run (.ofAddress "bridge.yaml" "127.0.0.1:9001")
        ["-v", "--listen", "127.0.0.1:9100", "--config=bridge.yaml"] ⟨[], none⟩ () =
      .listening "127.0.0.1:9100" ∧
    run (.ofAddress "bridge.yaml" "[::1]:9002")
        ["-v", "--listen", "127.0.0.1:9100", "--config=bridge.yaml"] ⟨[], none⟩ () =
      .listening "127.0.0.1:9100" := by
  have hwritten : SetsListen "127.0.0.1:9100" ["--listen", "127.0.0.1:9100"] :=
    .apart (by decide)
  have hfront : TakesMore ["-v"] := by decide +kernel
  have hothers : ∀ argument ∈ ["-v"] ++ ["--config=bridge.yaml"], ¬ NamesListen argument := by
    decide +kernel
  have hrequest : Request.ofArguments ["-v", "--config=bridge.yaml"] =
      .run { config := some "bridge.yaml", verbose := true } := by decide +kernel
  have hfirst : (Surroundings.ofAddress "bridge.yaml" "127.0.0.1:9001").HasListenAddress
      (["-v"] ++ ["--config=bridge.yaml"]) :=
    Surroundings.hasListenAddress_of_load { listenAddress := "127.0.0.1:9001" } hrequest
      (by decide +kernel)
  have hsecond : (Surroundings.ofAddress "bridge.yaml" "[::1]:9002").HasListenAddress
      (["-v"] ++ ["--config=bridge.yaml"]) :=
    Surroundings.hasListenAddress_of_load { listenAddress := "[::1]:9002" } hrequest
      (by decide +kernel)
  have hsame : (Surroundings.ofAddress "bridge.yaml" "127.0.0.1:9001").SameButListen
      (.ofAddress "bridge.yaml" "[::1]:9002") := by
    refine ⟨rfl, fun _ _ => rfl, fun path => ?_⟩
    by_cases hpath : path = "bridge.yaml"
    · subst hpath
      decide +kernel
    · simp only [Surroundings.ofAddress, if_neg hpath]
  obtain ⟨halike, -, -, hindependent⟩ := listen_option_needs_address_below
    (.ofAddress "bridge.yaml" "127.0.0.1:9001") (by decide) hwritten hfront hothers ⟨[], none⟩ ()
  have hset : run ((Surroundings.ofAddress "bridge.yaml" "127.0.0.1:9001").listeningOn
      "127.0.0.1:9100") (["-v"] ++ ["--config=bridge.yaml"]) ⟨[], none⟩ () =
        .listening "127.0.0.1:9100" := by decide +kernel
  have hgiven := halike.2 (.inl hfirst)
  rw [hset] at hgiven
  have hother := (hindependent _ hsame hfirst hsecond).symm.trans hgiven
  exact ⟨⟨by decide, hwritten, hfront, hothers⟩, hgiven.eq_of_serves rfl, hother.eq_of_serves rfl⟩

def pingLine : Bytes :=
  utf8Bytes "\x7b\"jsonrpc\":\"2.0\",\"id\":1,\"method\":\"ping\"\x7d\n"

def pingAnswer : Bytes :=
  utf8Bytes "\x7b\"jsonrpc\":\"2.0\",\"id\":1,\"result\":\x7b\x7d\x7d\n"

/-- The option does not stand in for the address in the file, as the variable does. -/
theorem listen_option_is_not_on_top :
    run (.ofAddress "config.yaml" "nowhere") ["--stdio", "--listen", "127.0.0.1:9100"]
        ⟨pingLine, none⟩ () =
      .failed ("Failed to load config 'config.yaml': Invalid field: " ++
        "invalid listenAddress: invalid socket address syntax") ∧
    run ((Surroundings.ofAddress "config.yaml" "nowhere").listeningOn "127.0.0.1:9100")
        ["--stdio"] ⟨pingLine, none⟩ () =
      .served pingAnswer .inputEnded := by
  decide +kernel

end CommandLine

end DocBridge

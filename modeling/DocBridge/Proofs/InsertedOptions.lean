import DocBridge.CommandLine

/-!
# An option among others

Arguments are read one after the other, and an option that is put between two of them comes on top
of what the others set, wherever it stands.  This is said here of the address to listen on: what the
arguments ask for with it is what they ask for without it, with the address set.
-/

namespace DocBridge.CommandLine

/-! ## Single arguments -/

/-- What an argument is to those behind it. -/
inductive Role where
  | single (switch : Switch)
  | row (letters : List Char)
  | filled (setting : Setting) (value : String)
  | unfilled (setting : Setting)
  | last
  | wrong
deriving DecidableEq

/-- Letters are a row of switches, a setting has its value attached or leaves it to the next
argument, and two dashes are the last argument that there can be. -/
def Role.of (argument : String) : Role :=
  match argument.toList with
  | ['-', '-'] => .last
  | '-' :: '-' :: _ =>
    let (name, attached) := splitFirst (· = '=') argument.toList
    match Switch.ofName? (String.ofList name), Setting.ofName? (String.ofList name), attached with
    | some switch, _, none => .single switch
    | none, some setting, some value => .filled setting (String.ofList value)
    | none, some setting, none => .unfilled setting
    | _, _, _ => .wrong
  | '-' :: letter :: letters => .row (letter :: letters)
  | _ => .wrong

/-- Reads what is behind an argument, unless this has decided. -/
def goOn (rest : List String) : Except Request Options → Request
  | .ok options => options.read rest
  | .error request => request

/-- The role of an argument decides alone what becomes of it. -/
theorem read_cons (options : Options) (argument : String) (rest : List String) :
    options.read (argument :: rest) =
      match Role.of argument with
      | .single switch => goOn rest (options.turnOn switch)
      | .row letters => goOn rest (options.turnOnLetters letters)
      | .filled setting value => goOn rest (options.assign value setting)
      | .unfilled setting =>
        match rest with
        | value :: rest =>
          if isValue value then goOn rest (options.assign value setting) else .refused
        | [] => .refused
      | .last => if rest.isEmpty then .run options else .refused
      | .wrong => .refused := by
  rw [Options.read]
  unfold Role.of
  split
  · simp_all
  · rename_i hword
    simp only [hword]
    split <;> simp_all <;> rfl
  · rename_i hrow
    simp_all
    rfl
  · simp_all

/-! ## Steps that have nothing to do with the address -/

def Options.listeningOn (options : Options) (listen : Option String) : Options :=
  { options with listen := listen }

/-- What is asked for, with another address to listen on, or none, if it is a run. -/
def Request.listeningOn (request : Request) (listen : Option String) : Request :=
  match request with
  | .run options => .run (options.listeningOn listen)
  | _ => request

/-- A step of the reading that has nothing to do with the address to listen on: it leaves any such
address as it is, and decides on no run. -/
structure IsApart (step : Options → Except Request Options) : Prop where
  keeps : ∀ (options : Options) listen,
    step (options.listeningOn listen) = (step options).map (·.listeningOn listen)
  decides : ∀ options request, step options = .error request → ∀ other, request ≠ .run other

theorem isApart_turnOn (switch : Switch) : IsApart (·.turnOn switch) where
  keeps options listen := by
    cases switch with
    | stdio | verbose =>
      simp only [Options.turnOn, apply_ite (Except.map _)]
      rfl
    | help | version => rfl
  decides options request h other := by
    rintro rfl
    cases switch with
    | stdio | verbose =>
      simp only [Options.turnOn] at h
      split at h <;> cases h
    | help | version => cases h

theorem isApart_assign_config (value : String) : IsApart (·.assign value .config) where
  keeps options listen := by
    simp only [Options.assign, apply_ite (Except.map _)]
    rfl
  decides options request h other := by
    rintro rfl
    simp only [Options.assign] at h
    split at h <;> cases h

theorem isApart_refused : IsApart fun _ => .error .refused where
  keeps _ _ := rfl
  decides := by
    rintro options request ⟨⟩ other
    exact nofun

theorem IsApart.bind {first second : Options → Except Request Options} (hfirst : IsApart first)
    (hsecond : IsApart second) : IsApart fun options => first options >>= second where
  keeps options listen := by
    rw [hfirst.keeps]
    cases first options with
    | error request => rfl
    | ok after => exact hsecond.keeps after listen
  decides options request h := by
    cases hstep : first options with
    | error other =>
      rw [hstep] at h
      cases h
      exact hfirst.decides options _ hstep
    | ok after =>
      rw [hstep] at h
      exact hsecond.decides after request h

theorem isApart_turnOnLetters (letters : List Char) : IsApart (·.turnOnLetters letters) := by
  induction letters with
  | nil => exact ⟨fun _ _ => rfl, fun _ _ h => nomatch h⟩
  | cons letter rest ih =>
    unfold Options.turnOnLetters
    cases Switch.ofLetter? letter with
    | none => exact isApart_refused
    | some switch => exact (isApart_turnOn switch).bind ih

namespace IsApart

variable {step : Options → Except Request Options} {listen : Option String} {rest : List String}

theorem listen_eq (h : IsApart step) {options after : Options} (hstep : step options = .ok after) :
    after.listen = options.listen := by
  have hkeeps : step options = (step options).map (·.listeningOn options.listen) :=
    h.keeps options options.listen
  rw [hstep] at hkeeps
  have hsame : after = after.listeningOn options.listen := Except.ok.inj hkeeps
  rw [hsame]
  rfl

theorem listeningOn_eq (h : IsApart step) {options : Options} {request : Request}
    (hstep : step options = .error request) : request.listeningOn listen = request := by
  cases request with
  | run other => exact absurd rfl (h.decides options _ hstep other)
  | help | version | refused => rfl

/-- Such a step may as well be taken before the address is set. -/
theorem goOn_listeningOn (h : IsApart step)
    (hrest : ∀ options : Options,
      (options.listeningOn listen).read rest = (options.read rest).listeningOn listen)
    (options : Options) :
    goOn rest (step (options.listeningOn listen)) =
      (goOn rest (step options)).listeningOn listen := by
  rw [h.keeps]
  cases hstep : step options with
  | error request => exact (h.listeningOn_eq hstep).symm
  | ok after => exact hrest after

/-- Such a step leaves it to the other arguments to set the address. -/
theorem goOn_eq_listeningOn (h : IsApart step) {longer : List String}
    (hrest : ∀ options : Options, options.listen = none →
      options.read longer = (options.read rest).listeningOn listen)
    {options : Options} (hlisten : options.listen = none) :
    goOn longer (step options) = (goOn rest (step options)).listeningOn listen := by
  cases hstep : step options with
  | error request => exact (h.listeningOn_eq hstep).symm
  | ok after => exact hrest after ((h.listen_eq hstep).trans hlisten)

end IsApart

/-! ## Arguments that have nothing to do with the address -/

def Role.isListen : Role → Bool
  | .unfilled .listen | .filled .listen _ => true
  | _ => false

def NamesListen (argument : String) : Prop := (Role.of argument).isListen = true

instance : DecidablePred NamesListen := fun _ => inferInstanceAs (Decidable (_ = _))

/-- If no argument sets the address, it does not matter to them whether it has been set. -/
theorem read_listeningOn (listen : Option String) : ∀ {arguments : List String},
    (∀ argument ∈ arguments, ¬ NamesListen argument) → ∀ options : Options,
      (options.listeningOn listen).read arguments =
        (options.read arguments).listeningOn listen
  | [], _, _ => rfl
  | argument :: rest, hothers, options => by
    obtain ⟨hargument, hrest⟩ := List.forall_mem_cons.1 hothers
    have ih := read_listeningOn listen hrest
    rw [read_cons, read_cons]
    cases hrole : Role.of argument with
    | single switch => exact (isApart_turnOn switch).goOn_listeningOn ih options
    | row letters => exact (isApart_turnOnLetters letters).goOn_listeningOn ih options
    | filled setting value =>
      cases setting with
      | config => exact (isApart_assign_config value).goOn_listeningOn ih options
      | listen => exact absurd (congrArg Role.isListen hrole) hargument
    | unfilled setting =>
      cases setting with
      | config =>
        cases rest with
        | nil => rfl
        | cons value rest =>
          -- The next argument is the value of this one, and the reading goes on behind both.
          have ih := read_listeningOn listen (List.forall_mem_cons.1 hrest).2
          dsimp only
          split
          · exact (isApart_assign_config value).goOn_listeningOn ih options
          · rfl
      | listen => exact absurd (congrArg Role.isListen hrole) hargument
    | last =>
      dsimp only
      split <;> rfl
    | wrong => rfl

/-- Arguments that do not name the address leave it as it is. -/
theorem listen_of_read {arguments : List String}
    (hothers : ∀ argument ∈ arguments, ¬ NamesListen argument) {options after : Options}
    (h : options.read arguments = .run after) : after.listen = options.listen := by
  have hsame : options.read arguments = (options.read arguments).listeningOn options.listen :=
    read_listeningOn options.listen hothers options
  rw [h] at hsame
  have hafter : after = after.listeningOn options.listen := Request.run.inj hsame
  rw [hafter]
  rfl

/-! ## The option in its place -/

/-- The ways to write the option for an address: as two arguments, if the address can be one, or as
one. -/
inductive SetsListen (address : String) : List String → Prop where
  | apart (h : isValue address = true) : SetsListen address ["--listen", address]
  | attached : SetsListen address ["--listen=" ++ address]

def Role.waits : Role → Bool
  | .unfilled _ => true
  | _ => false

/-- Arguments behind which an option may stand: none of them ends the options, and the last one does
not wait for its value. -/
structure TakesMore (front : List String) : Prop where
  goesOn : ∀ argument ∈ front, Role.of argument ≠ .last
  complete : ∀ argument ∈ front.getLast?, (Role.of argument).waits = false

instance (front : List String) : Decidable (TakesMore front) :=
  decidable_of_iff
    ((∀ argument ∈ front, Role.of argument ≠ .last) ∧
      ∀ argument ∈ front.getLast?, (Role.of argument).waits = false)
    ⟨fun h => ⟨h.1, h.2⟩, fun h => ⟨h.goesOn, h.complete⟩⟩

theorem TakesMore.tail {argument : String} {rest : List String}
    (h : TakesMore (argument :: rest)) : TakesMore rest where
  goesOn := (List.forall_mem_cons.1 h.goesOn).2
  complete last hlast := h.complete last (by
    rw [Option.mem_def] at hlast ⊢
    rw [List.getLast?_cons, hlast]
    rfl)

theorem role_attached (address : String) :
    Role.of ("--listen=" ++ address) = .filled .listen address := by
  have htext : ("--listen=" ++ address).toList =
      '-' :: '-' :: 'l' :: ("isten".toList ++ '=' :: address.toList) := by
    rw [String.toList_append]
    rfl
  have hsplit : splitFirst (fun character => decide (character = '='))
      ('-' :: '-' :: 'l' :: ("isten".toList ++ '=' :: address.toList)) =
        ("--listen".toList, some address.toList) := by
    simp [splitFirst]
  have hswitch : Switch.ofName? "--listen" = none := by decide +kernel
  have hsetting : Setting.ofName? "--listen" = some .listen := by decide +kernel
  simp only [Role.of, htext, hsplit, String.ofList_toList, hswitch, hsetting]

section Insertion

variable {address : String} {written back : List String}

/-- An address that is given is taken, and the arguments behind it are read as if by themselves. -/
theorem read_written (hwritten : SetsListen address written)
    (hothers : ∀ argument ∈ back, ¬ NamesListen argument) {options : Options}
    (hlisten : options.listen = none) :
    options.read (written ++ back) = (options.read back).listeningOn (some address) := by
  have hassign : options.assign address .listen = .ok (options.listeningOn (some address)) := by
    rw [Options.assign, hlisten]
    rfl
  have hrole : Role.of "--listen" = .unfilled .listen := by decide +kernel
  cases hwritten with
  | apart hvalue =>
    refine (read_cons options "--listen" (address :: back)).trans ?_
    simp only [hrole, if_pos hvalue, hassign]
    exact read_listeningOn (some address) hothers options
  | attached =>
    refine (read_cons options ("--listen=" ++ address) back).trans ?_
    simp only [role_attached, hassign]
    exact read_listeningOn (some address) hothers options

/-- Wherever the option for the address stands, the other arguments set what they set without it. -/
theorem read_append_written (hwritten : SetsListen address written) : ∀ {front : List String},
    TakesMore front → (∀ argument ∈ front ++ back, ¬ NamesListen argument) →
    ∀ {options : Options}, options.listen = none →
      options.read (front ++ (written ++ back)) =
        (options.read (front ++ back)).listeningOn (some address)
  | [], _, hothers, _, hlisten => read_written hwritten hothers hlisten
  | argument :: rest, hfront, hothers, options, hlisten => by
    obtain ⟨hargument, hrest⟩ := List.forall_mem_cons.1 hothers
    have ih (options : Options) (hlisten : options.listen = none) :
        options.read (rest ++ (written ++ back)) =
          (options.read (rest ++ back)).listeningOn (some address) :=
      read_append_written hwritten hfront.tail hrest hlisten
    rw [List.cons_append, List.cons_append, read_cons, read_cons]
    cases hrole : Role.of argument with
    | single switch => exact (isApart_turnOn switch).goOn_eq_listeningOn ih hlisten
    | row letters => exact (isApart_turnOnLetters letters).goOn_eq_listeningOn ih hlisten
    | filled setting value =>
      cases setting with
      | config => exact (isApart_assign_config value).goOn_eq_listeningOn ih hlisten
      | listen => exact absurd (congrArg Role.isListen hrole) hargument
    | unfilled setting =>
      cases setting with
      | config =>
        cases rest with
        | nil => cases (hfront.complete argument rfl).symm.trans (congrArg Role.waits hrole)
        | cons value rest =>
          -- The option does not stand between this one and its value, which is in front as well.
          have ih (options : Options) (hlisten : options.listen = none) :
              options.read (rest ++ (written ++ back)) =
                (options.read (rest ++ back)).listeningOn (some address) :=
            read_append_written hwritten hfront.tail.tail (List.forall_mem_cons.1 hrest).2 hlisten
          dsimp only [List.cons_append]
          split
          · exact (isApart_assign_config value).goOn_eq_listeningOn ih hlisten
          · rfl
      | listen => exact absurd (congrArg Role.isListen hrole) hargument
    | last => exact absurd hrole (hfront.goesOn argument List.mem_cons_self)
    | wrong => rfl

end Insertion

end DocBridge.CommandLine

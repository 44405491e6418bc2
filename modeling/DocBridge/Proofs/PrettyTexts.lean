import DocBridge.Proofs.JsonTexts

/-!
# Pretty texts are read back

The layout of a value over several lines differs from its compact text in blanks alone, and where
they stand the machine that reads JSON passes over them.  So both texts have the same outline, and
a value of a lossless type is decoded from either.
-/

namespace DocBridge.Json.Outline

/-! ## Blanks -/

theorem encode_lineStart (depth : Nat) :
    Utf8.encode (lineStart depth) = 0x0A :: List.replicate (2 * depth) 0x20 := by
  rw [lineStart, Utf8.encode_cons, Utf8.encode, List.flatMap_replicate]
  change [0x0A] ++ (List.replicate (2 * depth) [0x20]).flatten = _
  rw [List.flatten_replicate_singleton]
  rfl

/-- The places between two tokens. -/
def Mode.IsBetween (mode : Mode) : Prop :=
  mode = .value ∨ mode = .itemOrClose ∨ mode = .memberOrClose ∨ mode = .name ∨ mode = .separator

/-- Between two tokens blanks are passed over. -/
theorem run_blanks {mode : Mode} (hmode : mode.IsBetween) (frames : List Frame) {blanks : Bytes}
    (h : ∀ byte ∈ blanks, isBlank byte = true) :
    run (.reading mode frames) blanks = .reading mode frames := by
  induction blanks with
  | nil => rfl
  | cons byte rest ih =>
    have hbyte := h byte List.mem_cons_self
    have hstep : step (.reading mode frames) byte = .reading mode frames := by
      rcases hmode with rfl | rfl | rfl | rfl | rfl <;> simp [step, follow, hbyte]
    rw [run_cons, hstep]
    exact ih fun other hother => h other (List.mem_cons_of_mem byte hother)

theorem isBlank_of_mem_spaces (count : Nat) :
    ∀ byte ∈ List.replicate count (0x20 : UInt8), isBlank byte = true := by
  intro byte hbyte
  rw [List.eq_of_mem_replicate hbyte]
  rfl

/-- Line breaks and indentation are passed over wherever a value may not go on. -/
theorem run_lineStart {mode : Mode} (hmode : mode.IsBetween) (frames : List Frame)
    (depth : Nat) :
    run (.reading mode frames) (Utf8.encode (lineStart depth)) = .reading mode frames := by
  rw [encode_lineStart]
  exact run_blanks hmode frames (List.forall_mem_cons.2 ⟨rfl, isBlank_of_mem_spaces _⟩)

/-! ## Arrays and objects -/

/-- A closing bracket on a line of its own behind a value inside a container. -/
theorem Settled.run_close {value : Outline} {frames after : List Frame} {state : State}
    (h : Settled value frames state) (hdeliver : deliver value frames = .reading .separator after)
    (depth : Nat) {bracket : Char} (hbracket : bracket = ']' ∨ bracket = '}') :
    run state (Utf8.encode (lineStart depth ++ [bracket])) =
      separate after (UInt8.ofNat bracket.toNat) := by
  have hspaces := run_blanks (.inr (.inr (.inr (.inr rfl)))) after
    (isBlank_of_mem_spaces (2 * depth))
  have hnewline : follow (.reading .separator after) 0x0A = .reading .separator after := rfl
  rw [Utf8.encode_append, encode_lineStart, List.cons_append,
    h.run_cons (.inr (.inr (.inr rfl))), hdeliver, hnewline, run_append, hspaces]
  rcases hbracket with rfl | rfl <;> rfl

/-- The items of an array behind those that have been read, with at least one of them. -/
theorem run_prettyItems {depth : Nat} {items : List Json} (hne : items ≠ [])
    (hitems : ∀ item ∈ items, Spells (Utf8.encode (prettyAt (depth + 1) item)) (ofJson item))
    {mode : Mode} (hmode : mode = .value ∨ mode = .itemOrClose) (read : List Outline)
    (frames : List Frame) :
    run (.reading mode (.array read :: frames)) (Utf8.encode (prettyItems depth items)) =
      deliver (.array (read.reverse ++ ofItems items) true) frames := by
  induction items generalizing mode read with
  | nil => exact absurd rfl hne
  | cons item rest ih =>
    have hitem := hitems item List.mem_cons_self mode (.array read :: frames) hmode
    have hbetween : mode.IsBetween := hmode.imp_right .inl
    have hread : read.reverse ++ ofItems (item :: rest) =
        (ofJson item :: read).reverse ++ ofItems rest := by
      simp [ofItems]
    rw [prettyItems, List.append_assoc, Utf8.encode_append, run_append, run_lineStart hbetween,
      Utf8.encode_append, run_append, hread]
    generalize run (.reading mode (.array read :: frames))
      (Utf8.encode (prettyAt (depth + 1) item)) = state at hitem ⊢
    cases rest with
    | nil =>
      rw [prettyItems, ofItems, List.append_nil]
      exact hitem.run_close rfl depth (.inl rfl)
    | cons next others =>
      have hrest := ih (List.cons_ne_nil next others)
        (fun other hother => hitems other (List.mem_cons_of_mem item hother)) (.inl rfl)
        (ofJson item :: read)
      rw [← hrest]
      exact hitem.run_cons (.inl rfl) _

/-- The members of an object behind those that have been read, with at least one of them. -/
theorem run_prettyMembers {depth : Nat} {members : Members} (hne : members ≠ [])
    (hmembers : ∀ member ∈ members,
      Spells (Utf8.encode (prettyAt (depth + 1) member.2)) (ofJson member.2))
    {mode : Mode} (hmode : mode = .name ∨ mode = .memberOrClose)
    (read : List (List TextUnit × Outline)) (frames : List Frame) :
    run (.reading mode (.object read :: frames)) (Utf8.encode (prettyMembers depth members)) =
      deliver (.object (read.reverse ++ ofMembers members) true) frames := by
  induction members generalizing mode read with
  | nil => exact absurd rfl hne
  | cons member rest ih =>
    obtain ⟨key, value⟩ := member
    have hvalue := hmembers (key, value) List.mem_cons_self .value
      (.member (textOf key) read :: frames) (.inl rfl)
    have hbetween : mode.IsBetween :=
      hmode.elim (fun h => .inr (.inr (.inr (.inl h)))) fun h => .inr (.inr (.inl h))
    have hread : read.reverse ++ ofMembers ((key, value) :: rest) =
        ((textOf key, ofJson value) :: read).reverse ++ ofMembers rest := by
      simp [ofMembers]
    have htail : Utf8.encode (':' :: ' ' :: (prettyAt (depth + 1) value ++
        ((if rest.isEmpty then [] else [',']) ++ prettyMembers depth rest))) =
        0x3A :: 0x20 :: (Utf8.encode (prettyAt (depth + 1) value) ++
          Utf8.encode ((if rest.isEmpty then [] else [',']) ++ prettyMembers depth rest)) := by
      rw [Utf8.encode_cons, Utf8.encode_cons, Utf8.encode_append]
      rfl
    have hblank : step (.reading .value (.member (textOf key) read :: frames)) 0x20 =
        .reading .value (.member (textOf key) read :: frames) := rfl
    rw [prettyMembers, List.append_assoc, Utf8.encode_append, run_append, run_lineStart hbetween,
      Utf8.encode_append, htail, run_name hmode, run_cons, hblank, run_append, hread]
    generalize run (.reading .value (.member (textOf key) read :: frames))
      (Utf8.encode (prettyAt (depth + 1) value)) = state at hvalue ⊢
    cases rest with
    | nil =>
      rw [prettyMembers, ofMembers, List.append_nil]
      exact hvalue.run_close rfl depth (.inr rfl)
    | cons next others =>
      have hrest := ih (List.cons_ne_nil next others)
        (fun other hother => hmembers other (List.mem_cons_of_mem _ hother)) (.inl rfl)
        ((textOf key, ofJson value) :: read)
      rw [← hrest]
      exact hvalue.run_cons (.inl rfl) _

/-! ## Pretty texts -/

/-- Every pretty text, at whatever depth, is read as the outline of its value. -/
theorem spells_prettyAt (json : Json) (depth : Nat) :
    Spells (Utf8.encode (prettyAt depth json)) (ofJson json) := by
  induction json using Json.induct generalizing depth with
  | null => exact spells_null
  | bool value => exact spells_bool value
  | number value => exact spells_number value
  | string text => exact spells_string text
  | array items ih =>
    intro mode frames hmode
    have hopen : step (.reading mode frames) 0x5B =
        .reading .itemOrClose (.array [] :: frames) := by
      rcases hmode with rfl | rfl <;> rfl
    cases items with
    | nil => exact (spells_compact (.array [])) mode frames hmode
    | cons item rest =>
      have hbytes : Utf8.encode (prettyAt depth (.array (item :: rest))) =
          0x5B :: Utf8.encode (prettyItems depth (item :: rest)) := by
        rw [prettyAt]
        rfl
      rw [hbytes, run_cons, hopen, run_prettyItems (List.cons_ne_nil item rest)
        (fun other hother => ih other hother (depth + 1)) (.inr rfl), ofJson]
      exact .delivered
  | object members ih =>
    intro mode frames hmode
    have hopen : step (.reading mode frames) 0x7B =
        .reading .memberOrClose (.object [] :: frames) := by
      rcases hmode with rfl | rfl <;> rfl
    cases members with
    | nil => exact (spells_compact (.object [])) mode frames hmode
    | cons member rest =>
      have hbytes : Utf8.encode (prettyAt depth (.object (member :: rest))) =
          0x7B :: Utf8.encode (prettyMembers depth (member :: rest)) := by
        rw [prettyAt]
        rfl
      rw [hbytes, run_cons, hopen, run_prettyMembers (List.cons_ne_nil member rest)
        (fun other hother => ih other hother (depth + 1)) (.inr rfl), ofJson]
      exact .delivered

theorem ofBytes_pretty (json : Json) :
    ofBytes (Utf8.encode json.pretty) = ⟨ofJson json, false⟩ :=
  (spells_prettyAt json 0 .value [] (.inl rfl)).finish_eq

end DocBridge.Json.Outline

namespace DocBridge.Json

/-- The pretty text of a value is decoded to the value. -/
theorem decode_pretty {α : Type} [Codec α] [Lossless α] (hdepth : Lossless.depth α ≤ maxDepth)
    (value : α) : decode α (Utf8.encode (toJson value).pretty) = .ok value :=
  decode_of_ofBytes (Outline.ofBytes_pretty (toJson value))
    (Lossless.read_toJson value maxDepth hdepth) (Lossless.ofJson?_toJson value)

end DocBridge.Json

/-
# Payloads that are read again

A payload is composed of simple values, keys and signatures, in lists and in maps with names for
keys (`Composed`). What is read from its written form is the payload with the base58 text of each
key and signature in its place (`spellOut`). A list of keys comes back as a list, which is equal
to it. But nothing is written if there is something in the payload that has no JSON form
(`isForeign`): the first such value, in the order of writing, is the one that the failure names.

Both are one statement about the step from values to JSON (`Comes`), which is proved along the
composition. The bounds on a payload are those within which JSON is read back (`Json.Readable`), and
its 400 levels are fewer than the reader has.
-/
import LedgerKeys.Payload
import LedgerKeys.Value.Equality
import LedgerKeys.Proofs.Key.Export

namespace LedgerKeys

/-! ## 1. Likeness of lists and maps -/

namespace Value

variable {f g : Value → Value}

theorem equals_eq_alike {a b : Value} (h : ∀ x, b ≠ .real x) : a.equals b = a.alike b := by
  unfold equals
  split
  · exact absurd rfl (h _)
  · rfl

theorem allAlike_map {vs : List Value} (h : ∀ v ∈ vs, alike (f v) (g v) = true) :
    allAlike (vs.map f) (vs.map g) = true := by
  induction vs with
  | nil => rfl
  | cons v vs ih =>
    rw [List.map_cons, List.map_cons, allAlike, Bool.and_eq_true]
    exact ⟨h v List.mem_cons_self, ih fun w hw => h w (List.mem_cons_of_mem v hw)⟩

theorem entriesIn_eq_true {es ys : List (Value × Value)}
    (h : ∀ e ∈ es, ∃ y ∈ ys, alike e.1 y.1 = true ∧ alike e.2 y.2 = true) :
    entriesIn es ys = true := by
  induction es with
  | nil => rfl
  | cons e es ih =>
    obtain ⟨y, hy, hname, hvalue⟩ := h e List.mem_cons_self
    rw [entriesIn, Bool.and_eq_true, List.any_eq_true]
    exact ⟨⟨y, hy, by rw [hname, hvalue, Bool.and_self]⟩,
      ih fun e' he' => h e' (List.mem_cons_of_mem e he')⟩

end Value

/-! ## 2. What payloads are composed of -/

namespace Payload

/-- The value is a byte string, a wallet or a path, which have no form in a payload. -/
def isForeign : Value → Bool
  | .bytes _ | .buffer _ | .wallet _ | .path _ => true
  | _ => false

/-- The entries of a map with these names for keys. -/
def entriesOf (ms : List (Text × Value)) : List (Value × Value) :=
  ms.map fun m => (.text m.1, m.2)

theorem entriesOf_cons (m : Text × Value) (ms : List (Text × Value)) :
    entriesOf (m :: ms) = (.text m.1, m.2) :: entriesOf ms := rfl

/-- The value is composed on so many levels. What has no JSON form may stand wherever a key may. -/
inductive Composed : Nat → Value → Prop where
  | null (levels : Nat) : Composed levels .null
  | bool (levels : Nat) (b : Bool) : Composed levels (.bool b)
  | int {levels : Nat} {n : Int} (h : (Text.ofNat n.natAbs).length ≤ Json.digitLimit) :
      Composed levels (.int n)
  | text {levels : Nat} {t : Text} (h : Json.Unpaired t) : Composed levels (.text t)
  | publicKey (levels : Nat) (k : PublicKey) : Composed levels (.publicKey k)
  | privateKey (levels : Nat) (k : PrivateKey) : Composed levels (.privateKey k)
  | signature (levels : Nat) (s : Signature) : Composed levels (.signature s)
  | foreign {levels : Nat} {v : Value} (h : isForeign v = true) : Composed levels v
  | list {levels : Nat} {vs : List Value} (h : ∀ v ∈ vs, Composed levels v) :
      Composed (levels + 1) (.list vs)
  | keyList {levels : Nat} {vs : List Value} (h : ∀ v ∈ vs, Composed levels v) :
      Composed (levels + 1) (.keyList vs)
  | map {levels : Nat} {ms : List (Text × Value)} (hnames : (ms.map Prod.fst).Nodup)
      (hunpaired : ∀ m ∈ ms, Json.Unpaired m.1) (h : ∀ m ∈ ms, Composed levels m.2) :
      Composed (levels + 1) (.map (entriesOf ms))

/-! ## 3. Places in a payload -/

mutual

/-- What stands in the places of a payload that are not lists or maps, in the order of writing. The
keys of a map are no places. -/
def leaves : Value → List Value
  | .list vs => leavesOfAll vs
  | .tuple vs => leavesOfAll vs
  | .keyList vs => leavesOfAll vs
  | .map es => leavesOfEntries es
  | v => [v]

/-- What stands in the places of the elements of a list. -/
def leavesOfAll : List Value → List Value
  | [] => []
  | v :: vs => leaves v ++ leavesOfAll vs

/-- What stands in the places of the values of a map. -/
def leavesOfEntries : List (Value × Value) → List Value
  | [] => []
  | (_, v) :: es => leaves v ++ leavesOfEntries es

end

theorem mem_leavesOfAll {v w : Value} {vs : List Value} (hv : v ∈ vs) (hw : w ∈ leaves v) :
    w ∈ leavesOfAll vs := by
  induction hv with
  | head vs => exact List.mem_append_left _ hw
  | tail u _ ih => exact List.mem_append_right _ ih

theorem mem_leavesOfEntries {m : Text × Value} {w : Value} {ms : List (Text × Value)}
    (hm : m ∈ ms) (hw : w ∈ leaves m.2) : w ∈ leavesOfEntries (entriesOf ms) := by
  induction hm with
  | head ms => exact List.mem_append_left _ hw
  | tail n _ ih => exact List.mem_append_right _ ih

/-- What is foreign is a place of its own, also a wallet with something in it. -/
theorem leaves_of_isForeign {v : Value} (h : isForeign v = true) : leaves v = [v] := by
  cases v with
  | bytes bs | buffer bs | wallet content | path t => rfl
  | _ => cases h

mutual

/-- The payload with the text of each key and signature in its place. What a list of keys becomes is
up to `lists`. -/
def spellOut (lists : List Value → Value) : Value → Value
  | .publicKey k => .text k.toBase58
  | .privateKey k => .text k.toBase58
  | .signature s => .text s.toBase58
  | .list vs => .list (spellOutAll lists vs)
  | .tuple vs => .tuple (spellOutAll lists vs)
  | .keyList vs => lists (spellOutAll lists vs)
  | .map es => .map (spellOutEntries lists es)
  | v => v

/-- The elements of a list, spelled out. -/
def spellOutAll (lists : List Value → Value) : List Value → List Value
  | [] => []
  | v :: vs => spellOut lists v :: spellOutAll lists vs

/-- The entries of a map with their values spelled out. -/
def spellOutEntries (lists : List Value → Value) : List (Value × Value) → List (Value × Value)
  | [] => []
  | (k, v) :: es => (k, spellOut lists v) :: spellOutEntries lists es

end

variable {lists : List Value → Value}

theorem spellOutAll_eq_map (vs : List Value) :
    spellOutAll lists vs = vs.map (spellOut lists) := by
  induction vs with
  | nil => rfl
  | cons v vs ih => rw [spellOutAll, ih, List.map_cons]

theorem spellOutEntries_entriesOf (ms : List (Text × Value)) :
    spellOutEntries lists (entriesOf ms) =
      ms.map fun m => (.text m.1, spellOut lists m.2) := by
  induction ms with
  | nil => rfl
  | cons m ms ih => rw [entriesOf_cons, spellOutEntries, ih, List.map_cons]

/-- **A list of keys is as good as a list.**  A payload with nothing foreign in it is spelled out
alike with the one and with the other. -/
theorem Composed.alike_spellOut {levels : Nat} {x : Value} (hx : Composed levels x)
    (hplain : ∀ v ∈ leaves x, isForeign v = false) :
    Value.alike (spellOut .list x) (spellOut .keyList x) = true := by
  induction hx with
  | null levels => rfl
  | bool levels b | int h | text h => exact beq_self_eq_true _
  | publicKey levels k | privateKey levels k | signature levels s => exact beq_self_eq_true _
  | @foreign levels v h =>
    have hv : isForeign v = false := hplain v (by simp [leaves_of_isForeign h])
    rw [h] at hv
    cases hv
  | @list levels vs h ih | @keyList levels vs h ih =>
    rw [spellOut, spellOut, Value.alike, spellOutAll_eq_map, spellOutAll_eq_map]
    exact Value.allAlike_map fun v hv => ih v hv fun w hw => hplain w (mem_leavesOfAll hv hw)
  | @map levels ms hnames hunpaired h ih =>
    rw [spellOut, spellOut, Value.alike, spellOutEntries_entriesOf, spellOutEntries_entriesOf,
      Bool.and_eq_true]
    refine ⟨by simp, Value.entriesIn_eq_true fun e he => ?_⟩
    obtain ⟨m, hm, rfl⟩ := List.mem_map.mp he
    exact ⟨_, List.mem_map_of_mem hm, beq_self_eq_true _,
      ih m hm fun w hw => hplain w (mem_leavesOfEntries hm hw)⟩

/-- No payload is a real number, the only kind of value that can be like another and not equal. -/
theorem Composed.spellOut_ne_real {levels : Nat} {x : Value} (hx : Composed levels x)
    (r : Binary64) : spellOut .keyList x ≠ .real r := by
  cases hx with
  | foreign h =>
    cases x with
    | bytes bs | buffer bs | wallet content | path t => exact Value.noConfusion
    | _ => cases h
  | _ => exact Value.noConfusion

/-! ## 4. From values to JSON -/

/-- What comes of a part of a payload, by the first foreign value in it: something good if there is
none, and else the failure that names its kind. -/
inductive Comes {α : Type} (good : α → Prop) : Option Value → Except Failure α → Prop where
  | done {a : α} (h : good a) : Comes good none (.ok a)
  | refused (v : Value) : Comes good (some v) (.error (.notSerializable v.kindName))

section Comes

variable {α β : Type} {good : α → Prop} {good' : β → Prop} {first second : Option Value}
  {r : Except Failure α}

/-- One step after another, on the parts of a payload in order. -/
theorem Comes.bind {next : α → Except Failure β} (h : Comes good first r)
    (hnext : ∀ a, good a → Comes good' second (next a)) :
    Comes good' (first.or second) (r >>= next) := by
  cases h with
  | done ha => exact hnext _ ha
  | refused v => exact .refused v

theorem Comes.map {f : α → β} (h : Comes good first r) (hf : ∀ a, good a → good' (f a)) :
    Comes good' first (f <$> r) := by
  cases h with
  | done ha => exact .done (hf _ ha)
  | refused v => exact .refused v

theorem Comes.of_none (h : Comes good none r) : ∃ a, r = .ok a ∧ good a := by
  cases h with
  | done ha => exact ⟨_, rfl, ha⟩

theorem Comes.of_some {v : Value} (h : Comes good (some v) r) :
    r = .error (.notSerializable v.kindName) := by
  cases h with
  | refused => rfl

end Comes

/-- The first value in a payload that has no JSON form. -/
def firstForeign (x : Value) : Option Value := (leaves x).find? isForeign

/-- The JSON value can be read back on so many levels, and what is read then is the payload spelled
out, with lists for its lists of keys. -/
structure StandsFor (levels : Nat) (x : Value) (j : Json) : Prop where
  readable : Json.Readable levels j
  value : Value.ofJson j = spellOut .list x

/-- The elements of a list become those of an array, if each comes to what it stands for. -/
theorem comes_toElements {levels : Nat} {vs : List Value}
    (h : ∀ v ∈ vs, Comes (StandsFor levels v) (firstForeign v) (toJson v)) :
    Comes (fun js => (∀ j ∈ js, Json.Readable levels j) ∧
        Value.ofElements js = spellOutAll .list vs)
      ((leavesOfAll vs).find? isForeign) (toElements vs) := by
  induction vs with
  | nil => exact .done ⟨List.forall_mem_nil _, rfl⟩
  | cons v vs ih =>
    rw [leavesOfAll, List.find?_append, toElements]
    refine (h v List.mem_cons_self).bind fun j hj => ?_
    refine (ih fun w hw => h w (List.mem_cons_of_mem v hw)).map ?_
    rintro js ⟨hreadable, hvalues⟩
    refine ⟨List.forall_mem_cons.mpr ⟨hj.readable, hreadable⟩, ?_⟩
    rw [Value.ofElements, hj.value, hvalues, spellOutAll]

/-- The entries of a map become the members of an object, with the names that they have. -/
theorem comes_toMembers {levels : Nat} {ms : List (Text × Value)}
    (h : ∀ m ∈ ms, Comes (StandsFor levels m.2) (firstForeign m.2) (toJson m.2)) :
    Comes (fun js => js.map Prod.fst = ms.map Prod.fst ∧
        (∀ m ∈ js, Json.Readable levels m.2) ∧
        Value.ofMembers js = spellOutEntries .list (entriesOf ms))
      ((leavesOfEntries (entriesOf ms)).find? isForeign) (toMembers (entriesOf ms)) := by
  induction ms with
  | nil => exact .done ⟨rfl, List.forall_mem_nil _, rfl⟩
  | cons m ms ih =>
    rw [entriesOf_cons, leavesOfEntries, List.find?_append, toMembers]
    refine (h m List.mem_cons_self).bind fun j hj => ?_
    refine (ih fun n hn => h n (List.mem_cons_of_mem m hn)).map ?_
    rintro js ⟨hnames, hreadable, hvalues⟩
    refine ⟨by simp [hnames], List.forall_mem_cons.mpr ⟨hj.readable, hreadable⟩, ?_⟩
    rw [Value.ofMembers, hj.value, hvalues, spellOutEntries]

/-- **A payload becomes JSON that stands for it**, unless there is something foreign in it. -/
theorem Composed.comes {levels : Nat} {x : Value} (hx : Composed levels x) :
    Comes (StandsFor levels x) (firstForeign x) (toJson x) := by
  induction hx with
  | null levels => exact .done ⟨.null levels, rfl⟩
  | bool levels b => exact .done ⟨.bool levels b, rfl⟩
  | int h => exact .done ⟨.int h, rfl⟩
  | text h => exact .done ⟨.str h, rfl⟩
  | publicKey levels k => exact .done ⟨.str (Json.unpaired_encode k.data), rfl⟩
  | privateKey levels k => exact .done ⟨.str (Json.unpaired_encode k.data), rfl⟩
  | signature levels s => exact .done ⟨.str (Json.unpaired_encode s.data), rfl⟩
  | @foreign levels v h =>
    cases v with
    | bytes bs | buffer bs | wallet content | path t => exact .refused _
    | _ => cases h
  | @list levels vs h ih | @keyList levels vs h ih =>
    refine (comes_toElements ih).map ?_
    rintro js ⟨hreadable, hvalues⟩
    exact ⟨.arr hreadable, congrArg Value.list hvalues⟩
  | @map levels ms hnames hunpaired h ih =>
    refine (comes_toMembers ih).map ?_
    rintro js ⟨hsame, hreadable, hvalues⟩
    -- The members have the names of the map, so these are distinct and unpaired as they were.
    refine ⟨.obj ?names ?unpaired hreadable, congrArg Value.map hvalues⟩
    case names => rwa [hsame]
    case unpaired =>
      intro m hm
      have hname : m.1 ∈ ms.map Prod.fst := hsame ▸ List.mem_map_of_mem hm
      obtain ⟨n, hn, hnm⟩ := List.mem_map.mp hname
      exact hnm ▸ hunpaired n hn

/-! ## 5. From values to texts, and back -/

/-- **A payload is read back with the texts of its keys and signatures in their places.**  Its lists
of keys are read as lists, and what is read is equal to what keeps them. If there is anything
foreign in any place, then nothing is written: the first such value is refused for its kind. -/
theorem write_reads_back {x : Value} (hx : Composed 400 x) :
    ((∀ v ∈ leaves x, isForeign v = false) →
      ∃ t found, write x = .ok t ∧ Json.ofDocument (.text t) = .ok found ∧
        Value.ofJson found = spellOut .list x ∧
        (Value.ofJson found).equals (spellOut .keyList x) = true) ∧
    ((∃ v ∈ leaves x, isForeign v = true) →
      ∃ v f, firstForeign x = some v ∧ write x = .error f ∧
        f = .notSerializable v.kindName ∧ f.kind = .wrongType) := by
  constructor
  · intro hplain
    have hnone : firstForeign x = none :=
      List.find?_eq_none.mpr fun v hv => by simp [hplain v hv]
    obtain ⟨j, hj, hstands⟩ := (hnone ▸ hx.comes).of_none
    have hreadable : Json.Readable Json.nestingLimit j := hstands.readable.mono (by decide)
    refine ⟨Json.print j, j, by rw [write, hj]; rfl, Json.ofDocument_print hreadable,
      hstands.value, ?_⟩
    rw [Value.equals_eq_alike hx.spellOut_ne_real, hstands.value]
    exact hx.alike_spellOut hplain
  · rintro ⟨v, hv, hforeign⟩
    have hsome : (firstForeign x).isSome = true := List.find?_isSome.mpr ⟨v, hv, hforeign⟩
    obtain ⟨w, hw⟩ := Option.isSome_iff_exists.mp hsome
    have hrefused : toJson x = .error (.notSerializable w.kindName) := (hw ▸ hx.comes).of_some
    exact ⟨w, _, hw, by rw [write, hrefused]; rfl, rfl, rfl⟩

/-- A key in a list of keys, under a name that is written by its surrogates; and a wallet in a list
of keys, in front of bytes. -/
theorem write_reads_back_zero_key :
    (∃ t found, write (.map [(.text [0x1F511], .keyList [.publicKey .zero, .int (-7)])]) = .ok t ∧
      Json.ofDocument (.text t) = .ok found ∧
      Value.ofJson found = .map [(.text [0x1F511],
        .list [.text "11111111111111111111111111111111", .int (-7)])] ∧
      (Value.ofJson found).equals (.map [(.text [0x1F511],
        .keyList [.text "11111111111111111111111111111111", .int (-7)])]) = true) ∧
    write (.list [.publicKey .zero, .keyList [.wallet .null], .bytes [7]]) =
      .error (.notSerializable "Wallet") := by
  have hzero : Text.ofString "11111111111111111111111111111111" = PublicKey.zero.toBase58 := by
    decide
  have hkeys : Composed 399 (.keyList [.publicKey .zero, .int (-7)]) := by
    refine .keyList (List.forall_mem_cons.mpr ⟨.publicKey 398 _, ?_⟩)
    exact List.forall_mem_singleton.mpr (.int (by decide))
  have hmap : Composed 400
      (.map (entriesOf [([0x1F511], .keyList [.publicKey .zero, .int (-7)])])) :=
    .map (by decide) (List.forall_mem_singleton.mpr (.singleton _))
      (List.forall_mem_singleton.mpr hkeys)
  have hwallet : Composed 399 (.keyList [.wallet .null]) :=
    .keyList (List.forall_mem_singleton.mpr (.foreign rfl))
  have hlist : Composed 400 (.list [.publicKey .zero, .keyList [.wallet .null], .bytes [7]]) := by
    refine .list (List.forall_mem_cons.mpr ⟨.publicKey 399 _, ?_⟩)
    exact List.forall_mem_cons.mpr ⟨hwallet, List.forall_mem_singleton.mpr (.foreign rfl)⟩
  have hbytes : ∃ v ∈ leaves (.list [.publicKey .zero, .keyList [.wallet .null], .bytes [7]]),
      isForeign v = true := by decide
  obtain ⟨v, f, hv, hf, rfl, -⟩ := (write_reads_back hlist).2 hbytes
  cases hv
  rw [hzero]
  exact ⟨(write_reads_back hmap).1 (by decide), hf⟩

end Payload
end LedgerKeys

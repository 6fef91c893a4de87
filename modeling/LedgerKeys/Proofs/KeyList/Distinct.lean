/-
# Lists of keys without repetition

A list of public keys that is changed by appending what it does not have, by taking elements out and
by turning it around never holds two equal keys. The list lives in a cell of a session
(`Session.HoldsKeys`), and each of these calls is settled by one equation on the keys in it: what it
answers, and which keys the cell holds afterwards. `SetCall.Turns` sums them up,
`SetCall.Turns.nodup` is the step of the induction and `Session.exists_nodup_of_run` the run. A call
that is refused leaves the session as it is.

There are two ways to ask for a key. Looking for its bytes (`KeyList.has`) and comparing elements
(`Session.contains`) agree, because a public key is its bytes.
-/
import Mathlib.Data.List.Induction
import Mathlib.Data.List.InsertIdx
import Mathlib.Data.List.Nodup
import LedgerKeys.Session
import LedgerKeys.Proofs.Outcome

namespace LedgerKeys

open KeyList (Answer Call)

/-! ## 1. Lists of keys -/

namespace KeyList

/-- Among public keys, the search for the bytes of one is the search for it. -/
theorem has_publicKeys (k : PublicKey) (ks : List PublicKey) :
    has (.publicKey k) (ks.map .publicKey) = .ok (decide (k ∈ ks)) := by
  induction ks with
  | nil => rfl
  | cons j ks ih =>
    have hfirst : hasBytesOf (.publicKey j) (.publicKey k) = .ok (j.data == k.data) := rfl
    rw [List.map_cons, has, hfirst, ih]
    by_cases hjk : j = k
    · simp [hjk, bind, Except.bind, pure, Except.pure]
    · have hdata : j.data ≠ k.data := fun h => hjk (PublicKey.eq_iff_data.mpr h)
      simp [hdata, Ne.symm hjk, bind, Except.bind]

/-- A test that is never refused finds what a test of the elements finds. -/
theorem place?_map {α β : Type} {test : β → Except Failure Bool} {f : α → β} {p : α → Bool}
    (h : ∀ x, test (f x) = .ok (p x)) (xs : List α) :
    place? test (xs.map f) = .ok (xs.findIdx? p) := by
  induction xs with
  | nil => rfl
  | cons x xs ih =>
    rw [List.map_cons, place?, h, ih, List.findIdx?_cons]
    cases p x with
    | true => rfl
    | false => rfl

/-- Taking an element out does not look at the elements. -/
theorem pop_map {α β : Type} (f : α → β) (place : Value) (xs : List α) :
    pop place (xs.map f) = (pop place xs).map fun r => (f r.1, r.2.map f) := by
  rw [pop, pop]
  cases placeOf place with
  | error e => rfl
  | ok i =>
    simp only [bind, Except.bind, List.length_map, List.getElem?_map]
    split
    · rfl
    · cases xs[(fromStart i xs.length).toNat]? with
      | none => rfl
      | some x =>
        simp only [Option.map_some, Except.map, pure, Except.pure, List.eraseIdx_map]

/-- What is left when an element was taken out. -/
theorem exists_eraseIdx_of_pop {α : Type} {place : Value} {xs : List α} {r : α × List α}
    (h : pop place xs = .ok r) : ∃ i, r.2 = xs.eraseIdx i := by
  rw [pop, except_bind_eq_ok] at h
  obtain ⟨i, -, h⟩ := h
  dsimp only at h
  split at h
  · cases h
  · split at h
    · cases h
      exact ⟨_, rfl⟩
    · cases h

end KeyList

/-! ## 2. A list of public keys in a session -/

namespace Session

/-- A public key as an item. -/
def key (k : PublicKey) : Item := .plain (.publicKey k)

/-- The cell holds a list of keys, and these are the keys in it. -/
def HoldsKeys (s : Session) (number : Nat) (ks : List PublicKey) : Prop :=
  s.cells[number]? = some (.list true (ks.map key))

/-- The session with other keys in a list. -/
def putKeys (s : Session) (number : Nat) (ks : List PublicKey) : Session :=
  { s with cells := s.cells.setIfInBounds number (.list true (ks.map key)) }

variable {s : Session} {number : Nat} {ks ks' : List PublicKey}

theorem key_injective : Function.Injective key := by
  intro j k h
  cases h
  rfl

theorem HoldsKeys.unique (h : s.HoldsKeys number ks) (h' : s.HoldsKeys number ks') : ks = ks' := by
  have hcell : Cell.list true (ks.map key) = .list true (ks'.map key) :=
    Option.some.inj (h.symm.trans h')
  injection hcell with _ hitems
  exact List.map_injective_iff.mpr key_injective hitems

theorem HoldsKeys.putKeys (h : s.HoldsKeys number ks) (ks' : List PublicKey) :
    (s.putKeys number ks').HoldsKeys number ks' := by
  have hbound : number < s.cells.size := (Array.getElem?_eq_some_iff.mp h).1
  rw [HoldsKeys, Session.putKeys, Array.getElem?_setIfInBounds, if_pos rfl, if_pos hbound]

/-- Putting the same keys changes nothing. -/
theorem HoldsKeys.putKeys_self (h : s.HoldsKeys number ks) : s.putKeys number ks = s := by
  obtain ⟨hbound, hcell⟩ := Array.getElem?_eq_some_iff.mp h
  rw [Session.putKeys, ← hcell, Array.setIfInBounds, dif_pos hbound, Array.set_getElem_self]

theorem equals_key (s : Session) (j k : PublicKey) : s.equals (key j) (key k) = .ok (j == k) := rfl

theorem alike_key (s : Session) (j k : PublicKey) : s.alike (key j) (key k) = .ok (j == k) := rfl

/-- The place of a key among the items is its place among the keys. -/
theorem place?_alike_key (s : Session) (k : PublicKey) (ks : List PublicKey) :
    KeyList.place? (s.alike · (key k)) (ks.map key) = .ok (ks.idxOf? k) :=
  KeyList.place?_map (f := key) (fun j => s.alike_key j k) ks

theorem HoldsKeys.value (h : s.HoldsKeys number ks) :
    s.value (.cell number) = .keyList (ks.map .publicKey) := by
  have hcell : s.cells[number]? = some (.list true (ks.map key)) := h
  rw [Session.value, valueInside, hcell]
  simp only [Cell.value, List.contains_nil, if_true, Bool.false_eq_true, if_false]
  rw [List.map_map]
  rfl

/-- No two elements are equal. -/
def Distinct (s : Session) (items : List Item) : Prop :=
  items.Pairwise fun a b => s.equals a b = .ok false

/-- Public keys are equal as elements only if they are the same. -/
theorem distinct_iff_nodup : s.Distinct (ks.map key) ↔ ks.Nodup := by
  rw [Distinct, List.pairwise_map]
  simp only [equals_key, Except.ok.injEq, beq_eq_false_iff_ne]
  rfl

/-! ## 3. What each call does -/

/-- A call on the items answers and leaves them in the cell. -/
theorem HoldsKeys.call_eq_ok (h : s.HoldsKeys number ks) {call : Call Item} {answer : Answer Item}
    (hrun : call.run s.view true (ks.map key) = .ok (answer, ks'.map key)) :
    s.call (.cell number) call = .ok (answer, s.putKeys number ks') := by
  have hcell : s.cells[number]? = some (.list true (ks.map key)) := h
  simp only [Session.call, hcell, callCell, hrun]
  rfl

/-- A call on the items that is refused is refused to the list. -/
theorem HoldsKeys.call_eq_error (h : s.HoldsKeys number ks) {call : Call Item} {f : Failure}
    (hrun : call.run s.view true (ks.map key) = .error f) :
    s.call (.cell number) call = .error f := by
  have hcell : s.cells[number]? = some (.list true (ks.map key)) := h
  simp only [Session.call, hcell, callCell, hrun]
  rfl

theorem has_view_keys (s : Session) (k : PublicKey) (ks : List PublicKey) :
    KeyList.has (s.view.value (key k)) ((ks.map key).map s.view.value) = .ok (decide (k ∈ ks)) := by
  rw [List.map_map]
  exact KeyList.has_publicKeys k ks

/-- A key that is there is not appended. -/
theorem HoldsKeys.uniqueAppend_of_mem (h : s.HoldsKeys number ks) {k : PublicKey} (hk : k ∈ ks) :
    s.call (.cell number) (.uniqueAppend (key k)) = .ok (.flag false, s) := by
  have hrun : (Call.uniqueAppend (key k)).run s.view true (ks.map key) =
      .ok (.flag false, ks.map key) := by
    rw [Call.run, has_view_keys, decide_eq_true hk]
    rfl
  rw [h.call_eq_ok hrun, h.putKeys_self]

/-- A key that is not there is put at the end. -/
theorem HoldsKeys.uniqueAppend_of_not_mem (h : s.HoldsKeys number ks) {k : PublicKey}
    (hk : k ∉ ks) :
    s.call (.cell number) (.uniqueAppend (key k)) =
      .ok (.flag true, s.putKeys number (ks ++ [k])) := by
  refine h.call_eq_ok ?_
  rw [Call.run, has_view_keys, decide_eq_false hk, List.map_append]
  rfl

/-- An element is taken out at a place, or the call is refused for the place. -/
theorem HoldsKeys.pop (h : s.HoldsKeys number ks) (place : Option Item) :
    s.call (.cell number) (.pop place) =
      (KeyList.pop (s.view.placeOr place) ks).map fun r =>
        (.element (key r.1), s.putKeys number r.2) := by
  have hmap := KeyList.pop_map key (s.view.placeOr place) ks
  cases hpop : KeyList.pop (s.view.placeOr place) ks with
  | error f =>
    rw [hpop] at hmap
    refine h.call_eq_error ?_
    rw [Call.run, hmap]
    rfl
  | ok r =>
    rw [hpop] at hmap
    refine h.call_eq_ok ?_
    rw [Call.run, hmap]
    rfl

/-- The first element like a key is taken out; if there is none, the call is refused. -/
theorem HoldsKeys.remove (h : s.HoldsKeys number ks) (k : PublicKey) :
    s.call (.cell number) (.remove (key k)) =
      if k ∈ ks then .ok (.nothing, s.putKeys number (ks.erase k)) else .error .removeAbsent := by
  have hplace : KeyList.place? (s.view.alike · (key k)) (ks.map key) = .ok (ks.idxOf? k) :=
    s.place?_alike_key k ks
  have herase := List.erase_eq_eraseIdx ks k
  cases hindex : ks.idxOf? k with
  | none =>
    rw [if_neg (List.idxOf?_eq_none_iff.mp hindex)]
    refine h.call_eq_error ?_
    rw [Call.run, hplace, hindex]
    rfl
  | some i =>
    have hk : k ∈ ks := List.isSome_idxOf?.mp (by rw [hindex]; rfl)
    rw [hindex] at herase
    rw [if_pos hk]
    refine h.call_eq_ok ?_
    rw [Call.run, hplace, hindex, herase, ← List.eraseIdx_map]
    rfl

theorem HoldsKeys.reverse (h : s.HoldsKeys number ks) :
    s.call (.cell number) .reverse = .ok (.nothing, s.putKeys number ks.reverse) := by
  refine h.call_eq_ok ?_
  rw [Call.run, List.map_reverse]

theorem HoldsKeys.clear (h : s.HoldsKeys number ks) :
    s.call (.cell number) .clear = .ok (.nothing, s.putKeys number []) :=
  h.call_eq_ok rfl

/-- Looking for the bytes of a key finds it if it is there. -/
theorem HoldsKeys.has (h : s.HoldsKeys number ks) (k : PublicKey) :
    ((s.value (.cell number)).asKeyList >>= KeyList.has (s.value (key k))) =
      .ok (decide (k ∈ ks)) := by
  rw [h.value]
  exact KeyList.has_publicKeys k ks

/-- Comparing the elements with a key finds it if it is there. -/
theorem HoldsKeys.contains (h : s.HoldsKeys number ks) (k : PublicKey) :
    s.contains (.cell number) (key k) = .ok (decide (k ∈ ks)) := by
  have hcell : s.cells[number]? = some (.list true (ks.map key)) := h
  have hmem : (ks.idxOf? k).isSome = decide (k ∈ ks) := by
    rw [Bool.eq_iff_iff, List.isSome_idxOf?, decide_eq_true_iff]
  rw [Session.contains, content?, hcell, ← hmem]
  simp only [place?_alike_key]
  rfl

/-! ## 4. Runs -/

/-- A change of a list of keys that puts in no key that is there: one that appends a key unless it
is there, or one that puts in nothing. -/
inductive SetCall where
  | uniqueAppend (k : PublicKey)
  | pop (place : Option Item)
  | remove (k : PublicKey)
  | reverse
  | clear

namespace SetCall

/-- The change as a call. -/
def call : SetCall → Call Item
  | uniqueAppend k => .uniqueAppend (key k)
  | pop place => .pop place
  | remove k => .remove (key k)
  | reverse => .reverse
  | clear => .clear

/-- What a change makes of the keys of a list. A place that is refused takes nothing out. -/
def Turns (ks ks' : List PublicKey) : SetCall → Prop
  | uniqueAppend k => ks' = if k ∈ ks then ks else ks ++ [k]
  | pop _ => ∃ i, ks' = ks.eraseIdx i
  | remove k => ks' = ks.erase k
  | reverse => ks' = ks.reverse
  | clear => ks' = []

/-- **A change keeps a list without repetition.** -/
theorem Turns.nodup {change : SetCall} (h : change.Turns ks ks') (hks : ks.Nodup) : ks'.Nodup := by
  cases change with
  | uniqueAppend k =>
    have hkeys : ks' = if k ∈ ks then ks else ks ++ [k] := h
    by_cases hk : k ∈ ks
    · rwa [hkeys, if_pos hk]
    · rw [hkeys, if_neg hk, ← List.concat_eq_append]
      exact List.Nodup.concat hk hks
  | pop place =>
    obtain ⟨i, rfl⟩ := h
    exact hks.sublist (List.eraseIdx_sublist ks i)
  | remove k =>
    rw [show ks' = ks.erase k from h]
    exact hks.erase k
  | reverse =>
    rw [show ks' = ks.reverse from h]
    exact List.nodup_reverse.mpr hks
  | clear =>
    rw [show ks' = [] from h]
    exact List.nodup_nil

end SetCall

/-- The session after a call, which is the same if the call is refused. -/
def after (s : Session) (target : Item) (call : Call Item) : Session :=
  match s.call target call with
  | .ok (_, s') => s'
  | .error _ => s

theorem after_of_ok {target : Item} {call : Call Item} {answer : Answer Item} {s' : Session}
    (h : s.call target call = .ok (answer, s')) : s.after target call = s' := by
  rw [after, h]

theorem after_of_error {target : Item} {call : Call Item} {f : Failure}
    (h : s.call target call = .error f) : s.after target call = s := by
  rw [after, h]

/-- The session after changes one after the other. -/
def run (s : Session) (target : Item) (changes : List SetCall) : Session :=
  changes.foldl (fun s change => s.after target change.call) s

theorem run_concat (s : Session) (target : Item) (changes : List SetCall) (change : SetCall) :
    s.run target (changes ++ [change]) = (s.run target changes).after target change.call :=
  List.foldl_concat ..

theorem HoldsKeys.after_uniqueAppend (h : s.HoldsKeys number ks) (k : PublicKey) :
    (s.after (.cell number) (.uniqueAppend (key k))).HoldsKeys number
      (if k ∈ ks then ks else ks ++ [k]) := by
  by_cases hk : k ∈ ks
  · rwa [if_pos hk, after_of_ok (h.uniqueAppend_of_mem hk)]
  · rw [if_neg hk, after_of_ok (h.uniqueAppend_of_not_mem hk)]
    exact h.putKeys _

theorem HoldsKeys.after_pop (h : s.HoldsKeys number ks) (place : Option Item) :
    (s.after (.cell number) (.pop place)).HoldsKeys number
      (match KeyList.pop (s.view.placeOr place) ks with
        | .ok r => r.2
        | .error _ => ks) := by
  have hcall := h.pop place
  cases hpop : KeyList.pop (s.view.placeOr place) ks with
  | error f =>
    rw [hpop] at hcall
    rwa [after_of_error hcall]
  | ok r =>
    rw [hpop] at hcall
    rw [after_of_ok hcall]
    exact h.putKeys _

theorem HoldsKeys.after_remove (h : s.HoldsKeys number ks) (k : PublicKey) :
    (s.after (.cell number) (.remove (key k))).HoldsKeys number (ks.erase k) := by
  have hcall := h.remove k
  by_cases hk : k ∈ ks
  · rw [if_pos hk] at hcall
    rw [after_of_ok hcall]
    exact h.putKeys _
  · rw [if_neg hk] at hcall
    rwa [after_of_error hcall, List.erase_of_not_mem hk]

theorem HoldsKeys.after_reverse (h : s.HoldsKeys number ks) :
    (s.after (.cell number) .reverse).HoldsKeys number ks.reverse := by
  rw [after_of_ok h.reverse]
  exact h.putKeys _

theorem HoldsKeys.after_clear (h : s.HoldsKeys number ks) :
    (s.after (.cell number) .clear).HoldsKeys number [] := by
  rw [after_of_ok h.clear]
  exact h.putKeys _

/-- **One change of a list of keys**, whether it is refused or not. -/
theorem HoldsKeys.exists_turns (h : s.HoldsKeys number ks) (change : SetCall) :
    ∃ ks', change.Turns ks ks' ∧ (s.after (.cell number) change.call).HoldsKeys number ks' := by
  cases change with
  | uniqueAppend k => exact ⟨_, rfl, h.after_uniqueAppend k⟩
  | pop place =>
    refine ⟨_, ?_, h.after_pop place⟩
    cases hpop : KeyList.pop (s.view.placeOr place) ks with
    | error f => exact ⟨ks.length, (List.eraseIdx_of_length_le (Nat.le_refl _)).symm⟩
    | ok r => exact KeyList.exists_eraseIdx_of_pop hpop
  | remove k => exact ⟨_, rfl, h.after_remove k⟩
  | reverse => exact ⟨_, rfl, h.after_reverse⟩
  | clear => exact ⟨_, rfl, h.after_clear⟩

/-- **A run keeps a list without repetition**, by induction on its changes. -/
theorem HoldsKeys.exists_nodup_of_run (h : s.HoldsKeys number ks) (hks : ks.Nodup)
    (changes : List SetCall) :
    ∃ ks', ks'.Nodup ∧ (s.run (.cell number) changes).HoldsKeys number ks' := by
  induction changes generalizing s ks with
  | nil => exact ⟨ks, hks, h⟩
  | cons change changes ih =>
    obtain ⟨ks', hturns, hafter⟩ := h.exists_turns change
    exact ih hafter (hturns.nodup hks)

/-- **Appending keys to an empty list leaves the first occurrence of each**, by induction from the
last key. -/
theorem HoldsKeys.run_uniqueAppend (h : s.HoldsKeys number []) (added : List PublicKey) :
    (s.run (.cell number) (added.map .uniqueAppend)).HoldsKeys number added.eraseDups := by
  induction added using List.reverseRecOn with
  | nil => exact h
  | append_singleton added k ih =>
    -- What was appended so far is what `eraseDups` keeps, so `k` is there if it was added before.
    have hafter := ih.after_uniqueAppend k
    rw [List.map_append, List.map_singleton, run_concat, List.eraseDups_append]
    by_cases hk : k ∈ added
    · rw [if_pos (List.mem_eraseDups.mpr hk)] at hafter
      have hnew : [k].removeAll added = [] := by simp [List.removeAll, hk]
      rwa [hnew, List.eraseDups_nil, List.append_nil]
    · rw [if_neg (fun h => hk (List.mem_eraseDups.mp h))] at hafter
      have hnew : [k].removeAll added = [k] := by simp [List.removeAll, hk]
      rwa [hnew, List.eraseDups_cons, List.filter_nil, List.eraseDups_nil]

/-! ## 5. The list as a set -/

/-- **A list of public keys stays without repetition.**  After every run of changes of a list
without equal elements there are still no equal elements; a key is appended with the answer yes
exactly if it is not there, at the end, and otherwise nothing is changed; and the two ways to ask
for a key agree.  In any list of public keys, also one with repetitions, the call leaves the number
of times a key is there that is there already.  Appending keys to the empty list in this way leaves
the first occurrence of each, in order. -/
theorem keyList_stays_distinct (s : Session) (number : Nat) :
    (∀ ks, s.HoldsKeys number ks → s.Distinct (ks.map key) → ∀ changes,
      let s' := s.run (.cell number) changes
      ∃ ks', s'.HoldsKeys number ks' ∧ s'.Distinct (ks'.map key) ∧ ∀ k,
        (k ∈ ks' → s'.call (.cell number) (.uniqueAppend (key k)) = .ok (.flag false, s')) ∧
        (k ∉ ks' → ∃ s'', s'.call (.cell number) (.uniqueAppend (key k)) =
          .ok (.flag true, s'') ∧ s''.HoldsKeys number (ks' ++ [k])) ∧
        ((s'.value (.cell number)).asKeyList >>= KeyList.has (s'.value (key k))) =
          .ok (decide (k ∈ ks')) ∧
        s'.contains (.cell number) (key k) = .ok (decide (k ∈ ks'))) ∧
    (∀ ks, s.HoldsKeys number ks → ∀ k, ∃ ks',
      (s.after (.cell number) (.uniqueAppend (key k))).HoldsKeys number ks' ∧
        ∀ j ∈ ks, ks'.count j = ks.count j) ∧
    (s.HoldsKeys number [] → ∀ added : List PublicKey,
      (s.run (.cell number) (added.map .uniqueAppend)).HoldsKeys number added.eraseDups) := by
  refine ⟨fun ks h hks changes => ?run, fun ks h k => ?count, fun h => h.run_uniqueAppend⟩
  case run =>
    obtain ⟨ks', hks', h'⟩ := h.exists_nodup_of_run (distinct_iff_nodup.mp hks) changes
    refine ⟨ks', h', distinct_iff_nodup.mpr hks', fun k =>
      ⟨fun hk => h'.uniqueAppend_of_mem hk, fun hk => ?_, h'.has k, h'.contains k⟩⟩
    exact ⟨_, h'.uniqueAppend_of_not_mem hk, h'.putKeys _⟩
  case count =>
    refine ⟨_, h.after_uniqueAppend k, fun j hj => ?_⟩
    by_cases hk : k ∈ ks
    · rw [if_pos hk]
    · have hjk : j ≠ k := by
        rintro rfl
        exact hk hj
      rw [if_neg hk, List.count_append, List.count_singleton, if_neg (by simpa using hjk.symm),
        Nat.add_zero]

/-- Two keys in a list: the first is taken out at the place -2 and appended again, the other one
removed; then a place is refused, and the list turned around. What is left is the first key, which
is not appended once more, as the other one is. -/
theorem keyList_stays_distinct_two :
    let zero : PublicKey := ⟨Bytes.zeros 32, rfl⟩
    let one : PublicKey := ⟨1 :: Bytes.zeros 31, rfl⟩
    let s : Session := { cells := #[.list true [key zero, key one]] }
    let changes : List SetCall :=
      [.pop (some (.plain (.int (-2)))), .uniqueAppend zero, .remove one, .pop (some (key one)),
        .reverse]
    let s' := s.run (.cell 0) changes
    (s.HoldsKeys 0 [zero, one] ∧ s.Distinct ([zero, one].map key) ∧
      s'.HoldsKeys 0 [zero] ∧
      s'.call (.cell 0) (.uniqueAppend (key zero)) = .ok (.flag false, s') ∧
      ∃ s'', s'.call (.cell 0) (.uniqueAppend (key one)) = .ok (.flag true, s'') ∧
        s''.HoldsKeys 0 [zero, one]) ∧
    (s'.after (.cell 0) .clear).HoldsKeys 0 [] ∧
      ((s'.after (.cell 0) .clear).run (.cell 0)
        ([one, zero, one].map .uniqueAppend)).HoldsKeys 0 [one, zero] := by
  intro zero one s changes s'
  have hne : zero ≠ one := by decide
  -- From here on it only matters that the keys differ.
  clear_value zero one
  have hs : s.HoldsKeys 0 [zero, one] := rfl
  have hdistinct : s.Distinct ([zero, one].map key) :=
    distinct_iff_nodup.mpr (by simpa using hne)
  have hs' : s'.HoldsKeys 0 [zero] := by
    have htaken := hs.after_pop (some (.plain (.int (-2))))
    rw [show KeyList.pop (s.view.placeOr (some (.plain (.int (-2))))) [zero, one] =
      .ok (zero, [one]) from rfl] at htaken
    have happended := htaken.after_uniqueAppend zero
    rw [if_neg (by simpa using hne)] at happended
    have hremoved := happended.after_remove one
    rw [List.singleton_append, List.erase_cons_head] at hremoved
    have hrefused := hremoved.after_pop (some (key one))
    simp only [s', changes, run, List.foldl_cons, List.foldl_nil, SetCall.call]
    exact hrefused.after_reverse
  obtain ⟨hrun, -, -⟩ := keyList_stays_distinct s 0
  obtain ⟨ks', hks', -, hset⟩ := hrun _ hs hdistinct changes
  obtain rfl := hks'.unique hs'
  obtain ⟨hthere, -⟩ := hset zero
  obtain ⟨-, hnew, -⟩ := hset one
  have hcleared : (s'.after (.cell 0) .clear).HoldsKeys 0 [] := hs'.after_clear
  have hdups : [one, zero, one].eraseDups = [one, zero] := by
    simp [List.eraseDups_cons, hne]
  obtain ⟨-, -, hfirst⟩ := keyList_stays_distinct (s'.after (.cell 0) .clear) 0
  exact ⟨⟨hs, hdistinct, hs', hthere (by simp), hnew (by simpa using hne.symm)⟩, hcleared,
    hdups ▸ hfirst hcleared [one, zero, one]⟩

end Session
end LedgerKeys

/-
# Actions of a pipe

An `extended_actions` bundles actions with an optional mask and with descriptors. A list
of them is passed to the SDK as three arrays of pointers: to the actions, to the
masks, and to small records that have the number of descriptors, in eight bits, and a
pointer to them.

The number is meant to be checked when the object is made. What is checked is the
parameter that the descriptors have already been moved out of.
-/

import Mathlib.Data.List.Basic
import Shoc.Doca.Basic

namespace Shoc.Flow

/-- A `doca_flow_action_descs`. The array is that of the object with the given position. -/
structure ActionDescs where
  nbActionDesc : UInt8
  descArray : ℕ
  deriving DecidableEq, Repr

/-- An `extended_actions`, over the actions and descriptors of the SDK. The constructor does not
initialise `descs_index_`. -/
structure ExtendedActions (α δ : Type*) where
  actions : α
  mask : Option α
  descs : List δ
  descsIndex : Option ActionDescs := none
  deriving DecidableEq, Repr

/-- The parameters of the constructor. -/
structure ActionsParameters (α δ : Type*) where
  actions : α
  mask : Option α := none
  descs : List δ := []
  deriving DecidableEq, Repr

/-- A `doca_flow_actions *` into the object with the given position. -/
inductive ActionsPtr
  | actions (i : ℕ)
  | mask (i : ℕ)
  deriving DecidableEq, Repr

/-- The arguments of `doca_flow_pipe_cfg_set_actions`. Null pointers are `none`, and a pointer to a
`doca_flow_action_descs` is the position of the object that has it. -/
structure SetActionsCall where
  actions : List (Option ActionsPtr)
  actionsMasks : Option (List (Option ActionsPtr))
  actionDescs : Option (List (Option ℕ))
  nrActions : ℕ
  deriving DecidableEq, Repr

variable {α δ : Type*}

namespace ExtendedActions

/-- The parameter is empty after the initialisation of `descs_`, and only then is it looked at. -/
def construct (parameters : ActionsParameters α δ) : Except DocaError (ExtendedActions α δ) :=
  let { actions, mask, descs } := parameters
  let (moved, descs) := (descs, ([] : List δ))
  if descs.length < 256 then .ok { actions, mask, descs := moved } else .error .invalidValue

def actionsPtr (i : ℕ) : ActionsPtr := .actions i

def maskPtr (i : ℕ) (object : ExtendedActions α δ) : Option ActionsPtr :=
  object.mask.map fun _ => .mask i

/-- The object after `descs_ptr`, which returns the address of its `descs_index_`. -/
def descsPtr (i : ℕ) (object : ExtendedActions α δ) : ExtendedActions α δ :=
  { object with descsIndex := some ⟨UInt8.ofNat object.descs.length, i⟩ }

end ExtendedActions

/-! ## The three arrays -/

/-- The objects and the arrays that the loop of `set_actions` fills. -/
structure Indices (α δ : Type*) where
  objects : List (ExtendedActions α δ)
  actionsIndex : List (Option ActionsPtr)
  masksIndex : List (Option ActionsPtr)
  descsIndex : List (Option ℕ)
  deriving DecidableEq, Repr

namespace Indices

variable (objects : List (ExtendedActions α δ))

def start : Indices α δ where
  objects := objects
  actionsIndex := List.replicate objects.length none
  masksIndex := List.replicate objects.length none
  descsIndex := List.replicate objects.length none

/-- One round of the loop. -/
def round (s : Indices α δ) (i : ℕ) : Indices α δ :=
  match s.objects[i]? with
  | none => s
  | some object =>
      { objects := s.objects.set i (object.descsPtr i)
        actionsIndex := s.actionsIndex.set i (some (ExtendedActions.actionsPtr i))
        masksIndex := s.masksIndex.set i (object.maskPtr i)
        descsIndex := s.descsIndex.set i (some i) }

def fill : Indices α δ := (List.range objects.length).foldl round (start objects)

/-- What the loop has done after some rounds. -/
def upto (k : ℕ) : Indices α δ where
  objects := objects.mapIdx fun i object => if i < k then object.descsPtr i else object
  actionsIndex := objects.mapIdx fun i _ => if i < k then some (.actions i) else none
  masksIndex := objects.mapIdx fun i object => if i < k then object.maskPtr i else none
  descsIndex := objects.mapIdx fun i _ => if i < k then some i else none

/-- A list that is filled up to a position is filled one further. -/
theorem set_mapIdx_lt {β γ : Type*} {l : List β} {k : ℕ} {x : β} (found : l[k]? = some x)
    (new old : ℕ → β → γ) :
    (l.mapIdx fun i y => if i < k then new i y else old i y).set k (new k x) =
      l.mapIdx fun i y => if i < k + 1 then new i y else old i y := by
  apply List.ext_getElem?
  intro i
  rw [List.getElem?_set, List.length_mapIdx, List.getElem?_mapIdx, List.getElem?_mapIdx]
  obtain ⟨inside, rfl⟩ := List.getElem?_eq_some_iff.mp found
  by_cases here : k = i
  · subst here
    simp [inside]
  · have same : (i < k) = (i < k + 1) := by
      rw [eq_iff_iff]
      omega
    simp only [here, if_false, same]

theorem upto_zero : upto objects 0 = start objects := by
  simp only [upto, start, Indices.mk.injEq]
  refine ⟨List.ext_getElem? fun i => ?_, ?_, ?_, ?_⟩
  · simp
  all_goals simp [List.mapIdx_eq_replicate_iff]

theorem round_upto {k : ℕ} (inside : k < objects.length) :
    (upto objects k).round k = upto objects (k + 1) := by
  have found : objects[k]? = some objects[k] := List.getElem?_eq_getElem inside
  have next : (upto objects k).objects[k]? = some objects[k] := by
    simp [upto, found]
  rw [round, next]
  simp only [upto, Indices.mk.injEq]
  refine ⟨?_, ?_, ?_, ?_⟩
  · exact set_mapIdx_lt found (fun i object => object.descsPtr i) fun _ object => object
  · exact set_mapIdx_lt found (fun i _ => some (ActionsPtr.actions i)) fun _ _ => none
  · exact set_mapIdx_lt found (fun i object => object.maskPtr i) fun _ _ => none
  · exact set_mapIdx_lt found (fun i _ => some i) fun _ _ => none

theorem foldl_round {k : ℕ} (inside : k ≤ objects.length) :
    (List.range k).foldl round (start objects) = upto objects k := by
  induction k with
  | zero => exact (upto_zero objects).symm
  | succ k ih =>
    rw [List.range_succ, List.foldl_append, ih (by omega)]
    exact round_upto objects inside

theorem fill_eq : fill objects = upto objects objects.length := foldl_round objects (Nat.le_refl _)

end Indices

/-! ## What reaches the SDK -/

/-- The overload of `set_actions` for arrays: what is passed on, and what is thrown. -/
def setActions (answer : DocaError) (actions : List (Option ActionsPtr))
    (actionsMasks : Option (List (Option ActionsPtr))) (actionDescs : Option (List (Option ℕ))) :
    Option SetActionsCall × Except DocaError Unit :=
  if actionsMasks.all (·.length = actions.length) then
    if actionDescs.all (·.length = actions.length) then
      (some ⟨actions, actionsMasks, actionDescs, actions.length⟩,
        if answer = .success then .ok () else .error answer)
    else (none, .error .invalidValue)
  else (none, .error .invalidValue)

/-- The overload of `set_actions` for extended actions, which changes them. -/
def setExtendedActions (answer : DocaError) (objects : List (ExtendedActions α δ)) :
    List (ExtendedActions α δ) × Option SetActionsCall × Except DocaError Unit :=
  let s := Indices.fill objects
  (s.objects, setActions answer s.actionsIndex (some s.masksIndex) (some s.descsIndex))

/-- What the SDK finds behind the pointers at one position of the arrays. -/
structure Entry (α δ : Type*) where
  actions : Option α
  mask : Option α
  nbActionDesc : UInt8
  descArray : List δ
  deriving DecidableEq, Repr

def ActionsPtr.load (objects : List (ExtendedActions α δ)) : ActionsPtr → Option α
  | .actions i => objects[i]?.map ExtendedActions.actions
  | .mask i => objects[i]?.bind ExtendedActions.mask

def SetActionsCall.entry (objects : List (ExtendedActions α δ)) (call : SetActionsCall) (i : ℕ) :
    Option (Entry α δ) :=
  call.actions[i]?.bind fun actions =>
  (call.actionsMasks.bind (·[i]?)).bind fun mask =>
  (call.actionDescs.bind (·[i]?.join)).bind fun owner =>
  (objects[owner]?.bind ExtendedActions.descsIndex).bind fun index =>
  objects[index.descArray]?.map fun array =>
    { actions := actions.bind (·.load objects)
      mask := mask.bind (·.load objects)
      nbActionDesc := index.nbActionDesc
      descArray := array.descs }

/-- Three arrays of the length of the list are passed, and their entries are the actions, the mask
if there is one, and the number of the descriptors with the descriptors themselves. -/
structure Unchanged (parameters : List (ActionsParameters α δ))
    (objects : List (ExtendedActions α δ)) (call : SetActionsCall) : Prop where
  nrActions : call.nrActions = parameters.length
  actions : call.actions.length = parameters.length
  masks : call.actionsMasks.map List.length = some parameters.length
  descs : call.actionDescs.map List.length = some parameters.length
  entries : ∀ i given, parameters[i]? = some given → ∃ entry, call.entry objects i = some entry ∧
    entry.actions = some given.actions ∧ entry.mask = given.mask ∧
    entry.nbActionDesc.toNat = given.descs.length ∧ entry.descArray = given.descs

/-- The object that the constructor makes. -/
def ActionsParameters.object (given : ActionsParameters α δ) : ExtendedActions α δ where
  actions := given.actions
  mask := given.mask
  descs := given.descs

theorem construct_eq (given : ActionsParameters α δ) :
    ExtendedActions.construct given = .ok given.object := rfl

/-- The call that is made for a list of objects, whatever the SDK answers. -/
def passedCall (objects : List (ExtendedActions α δ)) : SetActionsCall where
  actions := objects.mapIdx fun i _ => some (.actions i)
  actionsMasks := some (objects.mapIdx fun i object => object.maskPtr i)
  actionDescs := some (objects.mapIdx fun i _ => some i)
  nrActions := objects.length

theorem mapIdx_lt_length {β γ : Type*} (l : List β) (new old : ℕ → β → γ) :
    (l.mapIdx fun i x => if i < l.length then new i x else old i x) = l.mapIdx new := by
  apply List.ext_getElem?
  intro i
  rw [List.getElem?_mapIdx, List.getElem?_mapIdx]
  by_cases inside : i < l.length
  · simp only [inside, if_true]
  · rw [List.getElem?_eq_none (by omega)]
    rfl

theorem setExtendedActions_eq (answer : DocaError) (objects : List (ExtendedActions α δ)) :
    setExtendedActions answer objects =
      (objects.mapIdx fun i object => object.descsPtr i, some (passedCall objects),
        if answer = .success then .ok () else .error answer) := by
  simp only [setExtendedActions, Indices.fill_eq, Indices.upto, mapIdx_lt_length]
  simp [setActions, passedCall]

theorem entry_passedCall {objects : List (ExtendedActions α δ)} {i : ℕ}
    {object : ExtendedActions α δ} (found : objects[i]? = some object) :
    (passedCall objects).entry (objects.mapIdx fun i object => object.descsPtr i) i =
      some ⟨some object.actions, object.mask, UInt8.ofNat object.descs.length, object.descs⟩ := by
  cases masked : object.mask <;>
    simp [SetActionsCall.entry, passedCall, found, masked, ExtendedActions.descsPtr,
      ExtendedActions.maskPtr, ActionsPtr.load]

theorem toNat_ofNat_eq_iff {n : ℕ} : (UInt8.ofNat n).toNat = n ↔ n < 256 := by
  rw [UInt8.toNat_ofNat']
  omega

/-- **Extended actions reach the SDK unchanged exactly if there are less than 256 descriptors in
each.** The constructor never fails, so that it is right exactly if it should not fail; the arrays
are always right, but the number of descriptors is passed modulo 256. -/
theorem actions_unchanged_iff (parameters : List (ActionsParameters α δ)) (answer : DocaError) :
    ((∀ given ∈ parameters,
        ExtendedActions.construct given = .error .invalidValue ↔ 256 ≤ given.descs.length) ↔
      ∀ given ∈ parameters, given.descs.length < 256) ∧
    ∃ objects : List (ExtendedActions α δ),
      parameters.map ExtendedActions.construct = objects.map .ok ∧
      ∃ indexed call, setExtendedActions answer objects =
          (indexed, some call, if answer = .success then .ok () else .error answer) ∧
        (Unchanged parameters indexed call ↔ ∀ given ∈ parameters, given.descs.length < 256) := by
  constructor
  · refine forall₂_congr fun given _ => ?_
    rw [construct_eq]
    simp
  · refine ⟨parameters.map ActionsParameters.object, by rw [List.map_map]; rfl, _, _,
      setExtendedActions_eq answer _, ?_⟩
    have found : ∀ (i : ℕ) (given : ActionsParameters α δ), parameters[i]? = some given →
        (parameters.map ActionsParameters.object)[i]? = some given.object := by
      intro i given position
      rw [List.getElem?_map, position]
      rfl
    constructor
    · intro unchanged given among
      obtain ⟨i, position⟩ := List.mem_iff_getElem?.mp among
      obtain ⟨entry, read, -, -, number, -⟩ := unchanged.entries i given position
      rw [entry_passedCall (found i given position)] at read
      cases read
      exact toNat_ofNat_eq_iff.mp number
    · intro few
      refine ⟨?_, ?_, ?_, ?_, fun i given position => ?_⟩
      iterate 4 simp [passedCall]
      exact ⟨_, entry_passedCall (found i given position), rfl, rfl,
        toNat_ofNat_eq_iff.mpr (few given (List.mem_of_getElem? position)), rfl⟩

/-- Actions with a mask and two descriptors, and actions with neither. -/
def twoActions : List (ActionsParameters ℕ ℕ) :=
  [{ actions := 1, mask := some 2, descs := [3, 4] }, { actions := 5 }]

theorem actions_unchanged_iff_twoActions : ∃ indexed call,
    setExtendedActions .success (twoActions.map ActionsParameters.object) =
      (indexed, some call, .ok ()) ∧ Unchanged twoActions indexed call := by
  obtain ⟨-, objects, made, indexed, call, passed, unchanged⟩ :=
    actions_unchanged_iff twoActions .success
  have same : twoActions.map ActionsParameters.object = objects :=
    List.map_injective_iff.mpr (fun _ _ => Except.ok.inj) made
  exact ⟨indexed, call, same ▸ passed, unchanged.mpr (by decide)⟩

/-- Actions with 256 descriptors are accepted, and no descriptor is counted. -/
def manyDescs : ActionsParameters ℕ ℕ := { actions := 1, descs := List.replicate 256 0 }

theorem descriptor_count_wraps :
    manyDescs.descs.length = 256 ∧ ExtendedActions.construct manyDescs = .ok manyDescs.object ∧
    ∃ indexed call, setExtendedActions .success [manyDescs.object] = (indexed, some call, .ok ()) ∧
      (call.entry indexed 0).map Entry.nbActionDesc = some 0 := by
  have number : manyDescs.object.descs.length = 256 := List.length_replicate
  refine ⟨number, rfl, _, _, setExtendedActions_eq _ _, ?_⟩
  rw [entry_passedCall (i := 0) rfl, Option.map_some, number]
  rfl

end Shoc.Flow

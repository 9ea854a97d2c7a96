/-
# The setters of the flow configuration

A `global_cfg` has a `doca_flow_cfg` that is created by the first setter that is called.
Each setter passes its argument to one function of the SDK, which sets one attribute,
and throws what the SDK answers unless that is a success.

The setters should not get in each other's way: an attribute has the argument of the
last call of its setter, or the default. This is so except for the depth of the
queues, whose setter sets the number of counters.
-/

import Mathlib.Logic.Function.Basic
import Shoc.Data.Writes
import Shoc.Doca.Basic

namespace Shoc.Flow

open Data Transition

/-- The attributes of a `doca_flow_cfg`. The types of shared resources and the configuration of
receive side scaling are those of the SDK. -/
structure DocaFlowCfg (ρ κ : Type*) where
  pipeQueues : UInt16
  nrCounters : UInt32
  nrMeters : UInt32
  nrAclCollisions : UInt8
  modeArgs : Option String
  nrSharedResource : ρ → UInt32
  queueDepth : UInt32
  rssKey : List UInt8
  defaultRss : Option κ

/-- An attribute with its argument, as it is passed to a setter and to a function of the SDK. -/
inductive Setting (ρ κ : Type*)
  | pipeQueues (n : UInt16)
  | nrCounters (n : UInt32)
  | nrMeters (n : UInt32)
  | nrAclCollisions (n : UInt8)
  | modeArgs (args : Option String)
  | nrSharedResource (n : UInt32) (type : ρ)
  | queueDepth (n : UInt32)
  | rssKey (key : List UInt8)
  | defaultRss (rss : κ)
  deriving DecidableEq, Repr

inductive Attribute (ρ : Type*)
  | pipeQueues
  | nrCounters
  | nrMeters
  | nrAclCollisions
  | modeArgs
  | nrSharedResource (type : ρ)
  | queueDepth
  | rssKey
  | defaultRss
  deriving DecidableEq, Repr

/-- The value of an attribute. -/
inductive Value (κ : Type*)
  | uint8 (n : UInt8)
  | uint16 (n : UInt16)
  | uint32 (n : UInt32)
  | text (args : Option String)
  | bytes (key : List UInt8)
  | rss (cfg : Option κ)
  deriving DecidableEq, Repr

variable {ρ κ : Type*}

namespace Setting

/-- The attribute that the setter is named after. -/
def target : Setting ρ κ → Attribute ρ
  | pipeQueues _ => .pipeQueues
  | nrCounters _ => .nrCounters
  | nrMeters _ => .nrMeters
  | nrAclCollisions _ => .nrAclCollisions
  | modeArgs _ => .modeArgs
  | nrSharedResource _ type => .nrSharedResource type
  | queueDepth _ => .queueDepth
  | rssKey _ => .rssKey
  | defaultRss _ => .defaultRss

def argument : Setting ρ κ → Value κ
  | pipeQueues n => .uint16 n
  | nrCounters n => .uint32 n
  | nrMeters n => .uint32 n
  | nrAclCollisions n => .uint8 n
  | modeArgs args => .text args
  | nrSharedResource n _ => .uint32 n
  | queueDepth n => .uint32 n
  | rssKey key => .bytes key
  | defaultRss cfg => .rss (some cfg)

/-- What a setter has the SDK set. -/
def passed : Setting ρ κ → Setting ρ κ
  | queueDepth n => nrCounters n
  | setting => setting

theorem argument_passed (s : Setting ρ κ) : s.passed.argument = s.argument := by
  cases s <;> rfl

/-- Only the setter for the depth of the queues is confused with another. -/
theorem target_passed_iff {s : Setting ρ κ} {a : Attribute ρ} (counters : a ≠ .nrCounters)
    (depth : a ≠ .queueDepth) : s.passed.target = a ↔ s.target = a := by
  cases s with
  | queueDepth n => exact iff_of_false counters.symm depth.symm
  | _ => rfl

theorem passed_of_ne {s : Setting ρ κ} (other : ∀ n, s ≠ queueDepth n) : s.passed = s := by
  cases s with
  | queueDepth n => exact absurd rfl (other n)
  | _ => rfl

theorem target_passed_ne_queueDepth (s : Setting ρ κ) : s.passed.target ≠ .queueDepth := by
  cases s <;> simp [passed, target]

end Setting

namespace DocaFlowCfg

def get (cfg : DocaFlowCfg ρ κ) : Attribute ρ → Value κ
  | .pipeQueues => .uint16 cfg.pipeQueues
  | .nrCounters => .uint32 cfg.nrCounters
  | .nrMeters => .uint32 cfg.nrMeters
  | .nrAclCollisions => .uint8 cfg.nrAclCollisions
  | .modeArgs => .text cfg.modeArgs
  | .nrSharedResource type => .uint32 (cfg.nrSharedResource type)
  | .queueDepth => .uint32 cfg.queueDepth
  | .rssKey => .bytes cfg.rssKey
  | .defaultRss => .rss cfg.defaultRss

variable [DecidableEq ρ]

/-- What the functions `doca_flow_cfg_set_...` of the SDK do. -/
def set (cfg : DocaFlowCfg ρ κ) : Setting ρ κ → DocaFlowCfg ρ κ
  | .pipeQueues n => { cfg with pipeQueues := n }
  | .nrCounters n => { cfg with nrCounters := n }
  | .nrMeters n => { cfg with nrMeters := n }
  | .nrAclCollisions n => { cfg with nrAclCollisions := n }
  | .modeArgs args => { cfg with modeArgs := args }
  | .nrSharedResource n type =>
      { cfg with nrSharedResource := Function.update cfg.nrSharedResource type n }
  | .queueDepth n => { cfg with queueDepth := n }
  | .rssKey key => { cfg with rssKey := key }
  | .defaultRss rss => { cfg with defaultRss := some rss }

theorem get_set_same (cfg : DocaFlowCfg ρ κ) (s : Setting ρ κ) :
    (cfg.set s).get s.target = s.argument := by
  cases s <;> simp [set, get, Setting.target, Setting.argument]

theorem get_set_other (cfg : DocaFlowCfg ρ κ) (s : Setting ρ κ) {a : Attribute ρ}
    (differ : a ≠ s.target) : (cfg.set s).get a = cfg.get a := by
  cases s with
  | nrSharedResource n type =>
    cases a with
    | nrSharedResource other =>
      have distinct : other ≠ type := fun same => differ (same ▸ rfl)
      simp only [set, get, Function.update_of_ne distinct]
    | _ => rfl
  | _ =>
    cases a <;> first | rfl | exact absurd rfl differ

end DocaFlowCfg

/-! ## The wrapper -/

/-- A `global_cfg` with the configuration that its handle refers to. -/
structure GlobalCfg (ρ κ : Type*) where
  handle : Option (DocaFlowCfg ρ κ) := none

/-- What `doca_flow_cfg_create`, if it is called, and the function that is passed the argument
return. -/
structure Answers where
  create : DocaError := .success
  set : DocaError := .success
  deriving DecidableEq, Repr

namespace GlobalCfg

-- What `doca_flow_cfg_create` makes
variable (defaults : DocaFlowCfg ρ κ)

section Setters

variable (answers : Answers) (g : GlobalCfg ρ κ)

/-- The configuration after `ensure_handle_exists`, or what it throws. -/
def safeHandle : Except DocaError (DocaFlowCfg ρ κ) :=
  match g.handle with
  | some cfg => .ok cfg
  | none => if answers.create = .success then .ok defaults else .error answers.create

variable [DecidableEq ρ]

/-- What the setters have in common: `enforce_success` around a function of the SDK. A handle that
was created is kept even if the function fails. -/
def enforceSet (passed : Setting ρ κ) : GlobalCfg ρ κ × Except DocaError Unit :=
  match g.safeHandle defaults answers with
  | .error err => (g, .error err)
  | .ok cfg =>
      if answers.set = .success then (⟨some (cfg.set passed)⟩, .ok ())
      else (⟨some cfg⟩, .error answers.set)

def setPipeQueues (pipeQueues : UInt16) : GlobalCfg ρ κ × Except DocaError Unit :=
  g.enforceSet defaults answers (.pipeQueues pipeQueues)

def setNrCounters (nrCounters : UInt32) : GlobalCfg ρ κ × Except DocaError Unit :=
  g.enforceSet defaults answers (.nrCounters nrCounters)

def setNrMeters (nrMeters : UInt32) : GlobalCfg ρ κ × Except DocaError Unit :=
  g.enforceSet defaults answers (.nrMeters nrMeters)

def setNrAclCollisions (nrAclCollisions : UInt8) : GlobalCfg ρ κ × Except DocaError Unit :=
  g.enforceSet defaults answers (.nrAclCollisions nrAclCollisions)

def setModeArgs (modeArgs : Option String) : GlobalCfg ρ κ × Except DocaError Unit :=
  g.enforceSet defaults answers (.modeArgs modeArgs)

def setNrSharedResource (nrSharedResource : UInt32) (type : ρ) :
    GlobalCfg ρ κ × Except DocaError Unit :=
  g.enforceSet defaults answers (.nrSharedResource nrSharedResource type)

/-- The depth is passed to `doca_flow_cfg_set_nr_counters`. -/
def setQueueDepth (queueDepth : UInt32) : GlobalCfg ρ κ × Except DocaError Unit :=
  g.enforceSet defaults answers (.nrCounters queueDepth)

def setRssKey (rssKey : List UInt8) : GlobalCfg ρ κ × Except DocaError Unit :=
  g.enforceSet defaults answers (.rssKey rssKey)

def setDefaultRss (rss : κ) : GlobalCfg ρ κ × Except DocaError Unit :=
  g.enforceSet defaults answers (.defaultRss rss)

/-- A call of the setter that is named after the attribute. -/
def call : Setting ρ κ → GlobalCfg ρ κ × Except DocaError Unit
  | .pipeQueues n => g.setPipeQueues defaults answers n
  | .nrCounters n => g.setNrCounters defaults answers n
  | .nrMeters n => g.setNrMeters defaults answers n
  | .nrAclCollisions n => g.setNrAclCollisions defaults answers n
  | .modeArgs args => g.setModeArgs defaults answers args
  | .nrSharedResource n type => g.setNrSharedResource defaults answers n type
  | .queueDepth n => g.setQueueDepth defaults answers n
  | .rssKey key => g.setRssKey defaults answers key
  | .defaultRss rss => g.setDefaultRss defaults answers rss

end Setters

/-- The underlying configuration. Before there is one, it is what would be created. -/
def cfg (g : GlobalCfg ρ κ) : DocaFlowCfg ρ κ := g.handle.getD defaults

variable [DecidableEq ρ]

/-- Setters called one after another, with the answers they get: the configuration afterwards and
the calls that did not throw. -/
def calls : GlobalCfg ρ κ → List (Setting ρ κ × Answers) → GlobalCfg ρ κ × List (Setting ρ κ)
  | g, [] => (g, [])
  | g, (setting, answers) :: rest =>
      match g.call defaults answers setting with
      | (next, .ok ()) => ((calls next rest).1, setting :: (calls next rest).2)
      | (next, .error _) => calls next rest

/-! ## What is set -/

variable {defaults} {g next : GlobalCfg ρ κ} {answers : Answers} {s : Setting ρ κ}

omit [DecidableEq ρ] in
theorem eq_cfg_of_safeHandle {cfg : DocaFlowCfg ρ κ}
    (handle : g.safeHandle defaults answers = .ok cfg) : cfg = g.cfg defaults := by
  unfold safeHandle at handle
  unfold GlobalCfg.cfg
  cases existing : g.handle with
  | some present =>
    simp only [existing, Except.ok.injEq] at handle
    exact handle.symm
  | none =>
    simp only [existing] at handle
    split at handle
    · exact (Except.ok.inj handle).symm
    · cases handle

theorem call_eq :
    g.call defaults answers s = g.enforceSet defaults answers s.passed := by
  cases s <;> rfl

theorem cfg_of_accepted (returned : g.call defaults answers s = (next, .ok ())) :
    next.cfg defaults = (g.cfg defaults).set s.passed := by
  rw [call_eq, enforceSet] at returned
  split at returned
  · cases returned
  · rename_i cfg handle
    split at returned <;> cases returned
    rw [← eq_cfg_of_safeHandle handle]
    rfl

/-- A setter that throws leaves the attributes as they are. -/
theorem cfg_of_thrown {err : DocaError}
    (returned : g.call defaults answers s = (next, .error err)) :
    next.cfg defaults = g.cfg defaults := by
  rw [call_eq, enforceSet] at returned
  split at returned
  · cases returned
    rfl
  · rename_i cfg handle
    split at returned <;> cases returned
    rw [← eq_cfg_of_safeHandle handle]
    rfl

/-- The calls that do not throw set what they pass on, one after another. -/
theorem run_of_calls (made : List (Setting ρ κ × Answers)) (g : GlobalCfg ρ κ) :
    Run (fun cfg s => some (DocaFlowCfg.set cfg s.passed)) Always (g.cfg defaults)
      (g.calls defaults made).2 ((g.calls defaults made).1.cfg defaults) := by
  induction made generalizing g with
  | nil => exact Run.nil _
  | cons made rest ih =>
    obtain ⟨s, answers⟩ := made
    rw [calls]
    split
    · rename_i next returned
      exact Run.cons_iff.mpr ⟨trivial, _, rfl, cfg_of_accepted returned ▸ ih next⟩
    · rename_i next err returned
      exact cfg_of_thrown returned ▸ ih next

/-- The last call that passes on an attribute decides on it. -/
theorem get_of_calls (defaults : DocaFlowCfg ρ κ) (made : List (Setting ρ κ × Answers))
    (a : Attribute ρ) : ((({} : GlobalCfg ρ κ).calls defaults made).1.cfg defaults).get a =
      (Writes.last (fun s => s.passed.target) Setting.argument a
        (({} : GlobalCfg ρ κ).calls defaults made).2).getD (defaults.get a) := by
  have lens : Writes.Lens DocaFlowCfg.get (fun cfg s => DocaFlowCfg.set cfg s.passed)
      (fun s : Setting ρ κ => s.passed.target) Setting.argument Always defaults := by
    refine Writes.Lens.of_writes (fun cfg s => ?_) (fun cfg s => ?_) defaults
    · rw [cfg.get_set_same, s.argument_passed]
    · exact iff_of_true (fun a differ => cfg.get_set_other s.passed differ) trivial
  exact lens.last _ _ (run_of_calls made {}) a

/-- **The setters are independent, except for that of the queue depth.** After any calls of
setters, whatever the SDK answers, each attribute other than the number of counters and the depth
of the queues has the argument of the last call of its own setter that did not throw, or its
default. So do these two if no depth was set. In general the depth is always the default, and the
number of counters is the argument of the last call of either setter. -/
theorem setters_independent (defaults : DocaFlowCfg ρ κ) (made : List (Setting ρ κ × Answers))
    (final : GlobalCfg ρ κ) (accepted : List (Setting ρ κ))
    (run : ({} : GlobalCfg ρ κ).calls defaults made = (final, accepted)) :
    (∀ a, a ≠ .nrCounters → a ≠ .queueDepth → (final.cfg defaults).get a =
      (Writes.last Setting.target Setting.argument a accepted).getD (defaults.get a)) ∧
    ((∀ n, .queueDepth n ∉ accepted) → ∀ a, (final.cfg defaults).get a =
      (Writes.last Setting.target Setting.argument a accepted).getD (defaults.get a)) ∧
    (final.cfg defaults).queueDepth = defaults.queueDepth ∧
    (final.cfg defaults).get .nrCounters =
      (Writes.last (fun s => s.passed.target) Setting.argument .nrCounters accepted).getD
        (defaults.get .nrCounters) := by
  have decided : ∀ a, (final.cfg defaults).get a =
      (Writes.last (fun s => s.passed.target) Setting.argument a accepted).getD
        (defaults.get a) := by
    intro a
    have got := get_of_calls defaults made a
    rw [run] at got
    exact got
  refine ⟨fun a counters depth => ?_, fun unset a => ?_, ?_, decided .nrCounters⟩
  · rw [decided, Writes.last_congr fun s _ => Setting.target_passed_iff counters depth]
  · have same : ∀ s ∈ accepted, s.passed.target = a ↔ s.target = a := by
      intro s called
      rw [Setting.passed_of_ne fun n depth => unset n (depth ▸ called)]
    rw [decided, Writes.last_congr same]
  · have unset : Writes.last (fun s => s.passed.target) Setting.argument .queueDepth accepted =
        none := Writes.last_eq_none fun s _ => s.target_passed_ne_queueDepth
    have depth := decided .queueDepth
    rw [unset] at depth
    exact Value.uint32.inj depth

/-- A configuration in which everything is zero. -/
def zeros : DocaFlowCfg ℕ Unit where
  pipeQueues := 0
  nrCounters := 0
  nrMeters := 0
  nrAclCollisions := 0
  modeArgs := none
  nrSharedResource _ := 0
  queueDepth := 0
  rssKey := []
  defaultRss := none

/-- The first call cannot create the configuration, and the last two are refused, one of them
the only one that sets a depth. -/
def configured : List (Setting ℕ Unit × Answers) :=
  [(.nrSharedResource 5 0, { create := .badState }), (.nrSharedResource 7 0, {}),
    (.nrCounters 1000, {}), (.queueDepth 128, { set := .invalidValue }),
    (.nrSharedResource 9 0, { set := .invalidValue })]

theorem setters_independent_configured :
    ((({} : GlobalCfg ℕ Unit).calls zeros configured).1.cfg zeros).get (.nrSharedResource 0) =
      .uint32 7 ∧
    ((({} : GlobalCfg ℕ Unit).calls zeros configured).1.cfg zeros).get .nrCounters =
      .uint32 1000 := by
  have run : ({} : GlobalCfg ℕ Unit).calls zeros configured =
      (_, [.nrSharedResource 7 0, .nrCounters 1000]) := rfl
  obtain ⟨others, undepthed, -⟩ := setters_independent zeros configured _ _ run
  exact ⟨others (.nrSharedResource 0) (by decide) (by decide), undepthed (by simp) .nrCounters⟩

/-- Setting the depth after the number of counters sets that number, and no depth. -/
theorem queue_depth_sets_counters :
    ((({} : GlobalCfg ℕ Unit).calls zeros [(.nrCounters 1000, {}), (.queueDepth 128, {})]).1.cfg
      zeros).nrCounters = 128 ∧
    ((({} : GlobalCfg ℕ Unit).calls zeros [(.nrCounters 1000, {}), (.queueDepth 128, {})]).1.cfg
      zeros).queueDepth = 0 :=
  ⟨rfl, rfl⟩

end GlobalCfg

end Shoc.Flow

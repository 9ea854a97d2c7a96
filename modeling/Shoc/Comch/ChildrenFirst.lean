/-
# Children are torn down before their parent

A connection leaves `open_connections_`, and a client leaves the registry of the
engine, when no child is registered with it, and the server and the clients are
stopped when no child created on them is active. This is what `disconnect_if_able`
and `do_stop_if_able` check, and the check is sufficient as long as nothing else
tears a channel down: a remote disconnection does not wait for the children, nor
does the end of a client that the SDK reports on its own, and a channel that was
torn down still lets children be created on it.
-/

import Shoc.Comch.Sound

namespace Shoc.Comch

open Common Data Transition

/-- What the log says about the order: no child was left behind. -/
def Call.ChildrenFirst : Call → Prop
  | .erased _ activeChildren | .removed _ activeChildren => activeChildren = []
  | .clientStop _ _ active | .serverStop _ active => active = []
  | _ => True

instance : ∀ call : Call, Decidable call.ChildrenFirst
  | .erased _ activeChildren | .removed _ activeChildren =>
      inferInstanceAs (Decidable (activeChildren = []))
  | .clientStop _ _ active | .serverStop _ active => inferInstanceAs (Decidable (active = []))
  | .signalDisconnect _ | .serverDisconnect _ | .serverDisconnected _ _ | .clientStopped _ _
  | .serverStopped _ => inferInstanceAs (Decidable True)

namespace System

variable {s t : System} {label : Label}

/-- Neither the peer nor the SDK ends a channel under its children, and no child is created
on a channel that was torn down. -/
def SparesChildren (s : System) : Label → Prop
  | .event (.disconnection handle successful) =>
      successful = true → handle ∈ s.objects.openConnections →
        (s.channel (s.objects.connectionAt handle)).activeChildren.entries = []
  | .change (.client c) next => next = .idle → (s.channel c).activeChildren.entries = []
  | .call (.create c _) => ¬ (s.channel c).TornDown
  | _ => True

instance (s : System) : ∀ label, Decidable (s.SparesChildren label)
  | .event (.disconnection _ _) => inferInstanceAs (Decidable (_ → _ → _))
  | .change (.client _) _ => inferInstanceAs (Decidable (_ → _))
  | .call (.create _ _) => inferInstanceAs (Decidable (¬ _))
  | .event (.connection _ _ _) | .event (.message _ _) | .event (.newConsumer _ _)
  | .event (.expiredConsumer _ _)
  | .change .server _ | .change (.child _) _ | .call (.disconnect _) | .call .stopServer
  | .call (.stopChild _) | .call .createClient | .call (.msgRecv _) | .call (.acceptConsumer _)
  | .call .accept | .call (.coAwait _ _) | .ret | .sdk _ | .tick =>
      inferInstanceAs (Decidable True)

end System

/-- What is going on for a channel, as far as its registry is concerned: a child is started
and will be registered, or the channel leaves, with nothing registered. -/
inductive Mark
  | starts (channel : ChannelId)
  | leaves (channel : ChannelId)

@[simp] def Frame.mark : Frame → Option Mark
  | .childStart c _ _ => some (.starts c)
  | .serverDisconnect c | .releaseMessages c | .releaseConsumers c => some (.leaves c)
  | _ => none

def marks : View Mark := ⟨Frame.mark, fun _ => rfl, fun _ => rfl⟩

@[simp] theorem look_marks : marks.look = Frame.mark := rfl

theorem leaves_mem_marks {c : ChannelId} {stack : List Frame} :
    .leaves c ∈ marks.see stack ↔ c ∈ disconnecting.see stack ∨ c ∈ releasing.see stack := by
  induction stack with
  | nil => simp
  | cons frame stack ih => cases frame <;> simp [ih, or_assoc, or_left_comm]

/-- No child is started on a channel that leaves. -/
@[simp] def Mark.Apart : Mark → Mark → Prop
  | .starts c, .leaves c' => c ≠ c'
  | _, _ => True

namespace System

variable {s t : System} {label : Label}

/-! ## The invariant -/

/-- Every active child is registered, or about to be, and what is torn down or being torn
down has no registered children. -/
structure Orderly (s : System) : Prop where
  registered : ∀ child < s.objects.childCount, (s.child child).base.handle = true →
    child ∈ (s.channel (s.child child).parent).activeChildren ∨
      ((s.child child).parent, child) ∈ starting.see s.stack
  disconnected : ∀ child < s.objects.childCount, ∀ handle,
    (s.channel (s.child child).parent).role = .connection handle →
    (s.channel (s.child child).parent).state = .disconnected → (s.child child).base.handle = false
  emptied : ∀ c, .leaves c ∈ marks.see s.stack → (s.channel c).activeChildren.entries = []
  apart : (marks.see s.stack).Pairwise Mark.Apart
  log : ∀ call ∈ s.log, call.ChildrenFirst

theorem registered_step (sound : s.Sound) (orderly : s.Orderly) (taken : Taken s label t)
    (child : ChildId) (created : child < t.objects.childCount)
    (active : (t.child child).base.handle = true) :
    child ∈ (t.channel (t.child child).parent).activeChildren ∨
      ((t.child child).parent, child) ∈ starting.see t.stack := by
  have alive : ¬ (t.child child).base.handle = false := by simp [active]
  obtain before | ⟨c, placement, -, -, made, starts⟩ := taken.existed_or_created child created
  · have moved := taken.childMoved child
    have activeBefore : (s.child child).base.handle = true := by
      by_contra gone
      exact alive (moved.gone_stays (by simpa using gone) before)
    rw [moved.parent_eq before]
    obtain registered | starts := orderly.registered child before activeBefore
    -- A child that leaves the registry is active no more
    · have counted := sound.numbered.parent_lt child before
      exact .inl (((taken.channelMoved _).registered_stays registered counted).resolve_right alive)
    -- A child whose start is over is registered
    · obtain starts | registered | gone := taken.starting_shifted.mem_or_leaves starts
      · exact .inr starts
      · exact .inl registered
      · exact (alive gone).elim
  · rw [made]
    exact .inr starts

/-- When nothing is registered with a channel and no child is just being started, no child of
the channel is active. -/
theorem gone_of_empty (sound : s.Sound)
    (registered : ∀ child < s.objects.childCount, (s.child child).base.handle = true →
      child ∈ (s.channel (s.child child).parent).activeChildren ∨
        ((s.child child).parent, child) ∈ starting.see s.stack)
    (noStart : ∀ frame, s.stack.head? = some frame → frame.starts = none) (child : ChildId)
    (created : child < s.objects.childCount)
    (empty : (s.channel (s.child child).parent).activeChildren.entries = []) :
    (s.child child).base.handle = false := by
  by_contra active
  obtain present | starts := registered child created (by simpa using active)
  · exact Registry.eq_nil_iff.mp empty child present
  -- The start of a child that is active is on top of the stack
  · cases stack : s.stack with
    | nil => simp [stack] at starts
    | cons top callers =>
      rw [stack, View.see_cons, List.mem_append, Option.mem_toList] at starts
      obtain onTop | below := starts
      · have none := noStart top (by rw [stack, List.head?_cons])
        rw [look_starting, none] at onTop
        contradiction
      · exact active (sound.starting.gone_below stack below)

/-- A connection that ends has no active children: the peer leaves one without children, and
the SDK was told when no child was left. -/
theorem Orderly.gone_of_ends (orderly : s.Orderly) (sound : s.Sound)
    (spares : s.SparesChildren label) {child : ChildId} (created : child < s.objects.childCount)
    (ends : Ends s (s.child child).parent label) : (s.child child).base.handle = false := by
  cases ends with
  | @remote handle empty present found =>
    refine gone_of_empty sound orderly.registered (by simp [empty]) child created ?_
    rw [← found]
    exact spares rfl present
  | told before =>
    refine gone_of_empty sound orderly.registered (by simp [before]) child created ?_
    exact orderly.emptied _ (by simp [before])

theorem disconnected_step (sound : s.Sound) (orderly : s.Orderly)
    (spares : s.SparesChildren label) (taken : Taken s label t) (child : ChildId)
    (created : child < t.objects.childCount) (handle : Handle)
    (role : (t.channel (t.child child).parent).role = .connection handle)
    (disconnected : (t.channel (t.child child).parent).state = .disconnected) :
    (t.child child).base.handle = false := by
  obtain before | ⟨c, placement, rfl, handed, made, -⟩ := taken.existed_or_created child created
  · have counted := sound.numbered.parent_lt child before
    rw [(taken.childMoved child).parent_eq before] at role disconnected
    rw [(taken.channelMoved _).role_eq counted] at role
    refine (taken.childMoved child).gone_stays ?_ before
    obtain down | ⟨ends, -⟩ :=
      (taken.channelMoved _).disconnected_or_ends disconnected (by simp [role]) counted
    · exact orderly.disconnected child before handle role down
    · exact orderly.gone_of_ends sound spares before ends
  -- The condition: no child is created on a connection that is disconnected
  · have counted := sound.numbered.channel c handed
    rw [made] at role disconnected
    rw [(taken.channelMoved c).role_eq counted] at role
    have connection : (s.channel c).role ≠ .client := by simp [role]
    obtain down | ⟨ends, -⟩ :=
      (taken.channelMoved c).disconnected_or_ends disconnected connection counted
    · exact (spares (Channel.tornDown_iff.mpr ⟨fun client => absurd client connection,
        fun _ => down⟩)).elim
    · cases ends

theorem emptied_step (orderly : s.Orderly) (spares : s.SparesChildren label)
    (taken : Taken s label t) (c : ChannelId) (mem : .leaves c ∈ marks.see t.stack) :
    (t.channel c).activeChildren.entries = [] := by
  -- No child is registered with a channel that leaves
  have stays : .leaves c ∈ marks.see s.stack → (t.channel c).activeChildren.entries = [] := by
    intro before
    obtain empty | ⟨child, placement, callers, onTop⟩ :=
      (taken.channelMoved c).empty_or_started (orderly.emptied c before)
    · exact empty
    · have apart : (.starts c :: marks.see callers).Pairwise Mark.Apart := by
        simpa [onTop] using orderly.apart
      have below : .leaves c ∈ marks.see callers := by simpa [onTop] using before
      exact (List.rel_of_pairwise_cons apart below rfl).elim
  obtain called | released := leaves_mem_marks.mp mem
  · obtain before | ⟨calls, -⟩ := taken.disconnecting_shifted.mem called
    · exact stays (leaves_mem_marks.mpr (.inl before))
    · exact calls.activeChildren_eq_nil
  · obtain before | begins := taken.releasing_shifted.mem released
    · exact stays (leaves_mem_marks.mpr (.inr before))
    -- The condition: the registry is empty when the channel leaves
    · cases begins with
      | connection ends now kept =>
        cases ends with
        | remote empty present found =>
          rw [kept, ← found]
          exact spares rfl present
        | told onTop => exact stays (by simp [onTop])
      | client same client created alive now kept =>
        subst same
        rw [kept]
        exact spares rfl

/-- A channel on which a child can be created does not leave. -/
theorem not_leaving (sound : s.Sound) (calm : s.Calm) {c : ChannelId}
    (alive : ¬ (s.channel c).TornDown) : .leaves c ∉ marks.see s.stack := by
  intro mem
  obtain called | released := leaves_mem_marks.mp mem
  · exact sound.starting.not_disconnecting_of_calm calm c called
  · refine alive ?_
    unfold Channel.TornDown
    split
    · exact sound.listed.idled c released ‹_›
    · cases role : (s.channel c).role with
      | connection handle => exact sound.listed.released c handle role released
      | client => contradiction

/-- Marks that are new: of a child that is created, or of a channel that leaves. -/
theorem Taken.marks_shifted (taken : Taken s label t) :
    Shifted
      (fun mark => (∃ c, mark = .leaves c) ∨
        ∃ c placement, mark = .starts c ∧ label = .call (.create c placement) ∧ s.Calm)
      (fun _ => True) (marks.see s.stack) (marks.see t.stack) := by
  cases taken with
  | create calm => exact .entered _ (.inr ⟨_, _, rfl, rfl, calm⟩) rfl
  | disconnection | clientIdled => exact .entered _ (.inl ⟨_, rfl⟩) rfl
  | @childIdled child =>
    rw [see_childIdled, View.teardown]
    split
    · split
      · exact .kept rfl
      · exact .entered _ (.inl ⟨_, rfl⟩) rfl
    · exact .kept rfl
  | @stopAllEnded c next callers before =>
    have rest : marks.see s.stack = marks.see callers := by rw [before]; rfl
    rw [rest, View.see_disconnectIfAble, View.teardown]
    split
    · split
      · exact .kept rfl
      · exact .entered _ (.inl ⟨_, rfl⟩) rfl
    · exact .kept rfl
  | @connectionReleased c _ _ _ _ before | @clientReleased c _ _ _ before =>
    exact .left (.leaves c) trivial (by simp [before])
  | disconnectFailed before | childAccepted before | childRefused before =>
    exact .left _ trivial (by rw [before]; rfl)
  | _ => exact .kept (by simp_all)

theorem apart_step (sound : s.Sound) (orderly : s.Orderly) (spares : s.SparesChildren label)
    (taken : Taken s label t) : (marks.see t.stack).Pairwise Mark.Apart := by
  refine taken.marks_shifted.pairwise orderly.apart ?_
  rintro mark (⟨c, rfl⟩ | ⟨c, placement, rfl, rfl, calm⟩) earlier mem
  · trivial
  -- The channel on which a child is created does not leave
  · cases earlier with
    | starts c' => trivial
    | leaves c' =>
      rintro rfl
      exact not_leaving sound calm spares mem

theorem activeOn_eq_nil {o : Objects} {c : ChannelId}
    (gone : ∀ child < o.childCount, (o.children child).parent = c →
      (o.children child).base.handle = false) : o.activeOn c = [] := by
  refine List.filter_eq_nil_iff.mpr fun child mem => ?_
  have ended := gone child (List.mem_range.mp mem)
  simp only [decide_eq_true_eq, not_and, Bool.not_eq_true]
  exact ended

theorem activeOnConnections_eq_nil {o : Objects}
    (gone : ∀ child < o.childCount, (o.channels (o.children child).parent).role ≠ .client →
      (o.children child).base.handle = false) : o.activeOnConnections = [] := by
  refine List.filter_eq_nil_iff.mpr fun child mem => ?_
  have ended := gone child (List.mem_range.mp mem)
  simp only [decide_eq_true_eq, not_and, Bool.not_eq_true]
  exact ended

theorem log_step (sound : s.Sound) (orderly : s.Orderly) (spares : s.SparesChildren label)
    (taken : Taken s label t) (call : Call) (mem : call ∈ t.log) : call.ChildrenFirst := by
  have soundAfter := sound_step sound taken
  obtain earlier | logged := taken.logged mem
  · exact orderly.log call earlier
  cases logged with
  -- The client has no registered children when it is stopped
  | @clientStop c calls after =>
    refine activeOn_eq_nil fun child created parent => ?_
    refine gone_of_empty soundAfter (registered_step sound orderly taken) (by simp [after]) child
      created ?_
    rw [System.child, parent]
    exact calls.activeChildren_eq_nil
  -- The server has no open connections when it is stopped, so they are all disconnected
  | serverStop all closed =>
    refine all.trans (activeOnConnections_eq_nil fun child created connection => ?_)
    cases role : (t.channel (t.child child).parent).role with
    | client => contradiction
    | connection handle =>
      refine disconnected_step sound orderly spares taken child created handle role ?_
      by_contra connected
      have found := soundAfter.listed.found _ handle role connected
      exact Registry.eq_nil_iff.mp closed handle found.1
  | @erased c handle callers before role present =>
    rw [sound.listed.own c handle role (by simp [before]) present]
    exact orderly.emptied c (by simp [before])
  | @removed c callers before => exact orderly.emptied c (by simp [before])
  | _ => trivial

theorem orderly_step (sound : s.Sound) (orderly : s.Orderly) (spares : s.SparesChildren label)
    (taken : Taken s label t) : t.Orderly where
  registered := registered_step sound orderly taken
  disconnected := disconnected_step sound orderly spares taken
  emptied := emptied_step orderly spares taken
  apart := apart_step sound orderly spares taken
  log := log_step sound orderly spares taken

theorem orderly_init : Orderly {} := by
  constructor <;> simp

/-! ## Runs -/

/-- In every run in which neither the peer nor the SDK ends a channel under its children, and
no child is created on a channel that was torn down, children are torn down first. -/
theorem children_torn_down_first (labels : List Label) (s : System)
    (run : Run step SparesChildren {} labels s) : ∀ call ∈ s.log, call.ChildrenFirst := by
  have known := invariant_of_run Orderly
    (fun _ _ _ sound orderly allowed taken => orderly_step sound orderly allowed taken)
    run orderly_init
  exact known.2.log

/-- A connection with one child that is disconnected and then stopped with its server, and
the child stops in its own time. -/
def disconnectedInOrder : List Label :=
  [.event (.connection 1 true (.position 0)), .call (.create 0 (.position 0)),
    .change (.child 0) .running, .sdk .success, .call (.disconnect 0), .tick, .sdk .inProgress,
    .tick, .change (.child 0) .idle, .sdk .success, .tick, .tick, .call .stopServer, .tick]

theorem children_torn_down_first_disconnectedInOrder :
    ∃ s, Run step SparesChildren {} disconnectedInOrder s ∧
      (∀ call ∈ s.log, call.ChildrenFirst) ∧ .erased 0 [] ∈ s.log ∧
      .serverStop false [] ∈ s.log := by
  refine ⟨_, ⟨rfl, by decide⟩, ?_, by decide, by decide⟩
  exact children_torn_down_first disconnectedInOrder _ ⟨rfl, by decide⟩

/-- The peer disconnects while a child is active: the connection is erased with its child
registered. -/
theorem remote_disconnection_leaves_children :
    ¬ ∀ (labels : List Label) (s : System), Run step Always {} labels s →
      ∀ call ∈ s.log, call.ChildrenFirst := by
  intro childrenFirst
  have ordered := childrenFirst
    [.event (.connection 1 true (.position 0)), .call (.create 0 (.position 0)),
      .change (.child 0) .running, .sdk .success, .event (.disconnection 1 true), .tick, .tick] _
    ⟨rfl, meets_always _ _⟩ (.erased 0 [0]) (by decide)
  contradiction

end System

end Shoc.Comch

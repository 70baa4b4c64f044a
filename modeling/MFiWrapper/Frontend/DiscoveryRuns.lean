import Mathlib.Algebra.GroupWithZero.Nat
import MFiWrapper.Frontend.Discovery
import MFiWrapper.Library.Halting

/-!
# Discovery comes to an end

Every task that is done keeps account of the copies: what has happened and what the tasks
left will add form one timeline, in which each copy is invoked and released at most once.
-/

namespace MFiWrapper
namespace Frontend

open Library

/-! ## The timeline -/

/-- The events of the tasks left, the next one last. -/
def ahead (tasks : List Task) : List DiscoveryEvent := (tasks.map Task.event).reverse

namespace Discovery

/-- What will have happened when the tasks left are done, and push no others. -/
def timeline (discovery : Discovery) : List DiscoveryEvent :=
  ahead discovery.tasks ++ discovery.log

/-- What the machine keeps: each copy is pending, replaced, or invoked or about to be, and
only one of these; and its release is over or ahead unless it is pending. -/
structure Inv (calls : List DiscoveryCall) (discovery : Discovery) : Prop where
  pending : discovery.pending = pendingAfter discovery.log
  made : discovery.copies = (handlers discovery.log).length
  held : ∀ gch, discovery.discoveryCompletionHandler = some gch →
    (handlers discovery.log)[gch.id]? = some gch.body
  /-- An invocation is done next, and after the call of a `Stop`. -/
  ready : ∀ gch, .invoke gch ∈ discovery.tasks →
    discovery.tasks.head? = some (.invoke gch) ∧
      (handlers discovery.log)[gch.id]? = some gch.body ∧
      ∃ caller before, discovery.log = .called caller .stop :: before ∧
        pendingAfter before = some gch.id
  released : (releases discovery.timeline ++ discovery.pending.toList).Perm
    (List.range discovery.copies)
  invoked : (invocations discovery.timeline ++ replaced discovery.log ++
    discovery.pending.toList).Perm (List.range discovery.copies)
  answered : ∀ caller before copy, .called caller .stop :: before <:+ discovery.log →
    pendingAfter before = some copy →
      .invoked copy :: .called caller .stop :: before <:+ discovery.log ∨
        discovery.log = .called caller .stop :: before ∧
          ∃ gch, discovery.tasks.head? = some (.invoke gch) ∧ gch.id = copy
  belongs : ∀ copy before, .invoked copy :: before <:+ discovery.log →
    ∃ caller rest, before = .called caller .stop :: rest ∧ pendingAfter rest = some copy
  unused : discovery.timeline.Pairwise fun later earlier =>
    ∀ copy, earlier = .released copy → ¬ later.Uses copy
  ran : ∀ copy, callsBy (some copy) discovery.timeline =
    if copy ∈ invocations discovery.log then (handlers discovery.log).getD copy [] else []
  application : callsBy none discovery.timeline = calls

end Discovery

section Events

variable {event : DiscoveryEvent} {log first second : List DiscoveryEvent} {task : Task}
  {tasks : List Task} {caller : Option Nat}

theorem ahead_cons (task : Task) (tasks : List Task) :
    ahead (task :: tasks) = ahead tasks ++ [task.event] := by
  rw [ahead, List.map_cons, List.reverse_cons]
  rfl

theorem ahead_append (added tasks : List Task) :
    ahead (added ++ tasks) = ahead tasks ++ ahead added := by
  rw [ahead, List.map_append, List.reverse_append]
  rfl

theorem invocations_append :
    invocations (first ++ second) = invocations first ++ invocations second :=
  List.filterMap_append

theorem releases_append : releases (first ++ second) = releases first ++ releases second :=
  List.filterMap_append

theorem callsBy_append :
    callsBy caller (first ++ second) = callsBy caller second ++ callsBy caller first := by
  rw [callsBy, List.filterMap_append, List.reverse_append]
  rfl

theorem mem_invocations {copy : Nat} : copy ∈ invocations log ↔ .invoked copy ∈ log := by
  rw [invocations, List.mem_filterMap]
  constructor
  · rintro ⟨event, hMem, hEvent⟩
    cases event <;> cases hEvent
    exact hMem
  · exact fun hMem => ⟨_, hMem, rfl⟩

theorem mem_releases {copy : Nat} : copy ∈ releases log ↔ .released copy ∈ log := by
  rw [releases, List.mem_filterMap]
  constructor
  · rintro ⟨event, hMem, hEvent⟩
    cases event <;> cases hEvent
    exact hMem
  · exact fun hMem => ⟨_, hMem, rfl⟩

theorem not_mem_of_callsBy {copy : Nat} (hCalls : callsBy (some copy) log = [])
    (call : DiscoveryCall) : .called (some copy) call ∉ log := by
  intro hMem
  rw [callsBy, List.reverse_eq_nil_iff, List.filterMap_eq_nil_iff] at hCalls
  have hNone := hCalls _ hMem
  rw [DiscoveryEvent.callBy, if_pos rfl] at hNone
  cases hNone

/-- The calls of a program, as they come next. -/
theorem mem_ahead_calls {maker : Option Nat} {body : List DiscoveryCall}
    (hMem : event ∈ ahead (body.map (.call maker))) : ∃ call, event = .called maker call := by
  rw [ahead, List.mem_reverse, List.map_map, List.mem_map] at hMem
  obtain ⟨call, -, rfl⟩ := hMem
  exact ⟨call, rfl⟩

theorem releases_calls (maker : Option Nat) (body : List DiscoveryCall) :
    releases (ahead (body.map (.call maker))) = [] := by
  refine List.filterMap_eq_nil_iff.mpr fun event hMem => ?_
  obtain ⟨call, rfl⟩ := mem_ahead_calls hMem
  rfl

theorem invocations_calls (maker : Option Nat) (body : List DiscoveryCall) :
    invocations (ahead (body.map (.call maker))) = [] := by
  refine List.filterMap_eq_nil_iff.mpr fun event hMem => ?_
  obtain ⟨call, rfl⟩ := mem_ahead_calls hMem
  rfl

theorem callsBy_calls (maker : Option Nat) (body : List DiscoveryCall) (caller : Option Nat) :
    callsBy caller (ahead (body.map (.call maker))) = if maker = caller then body else [] := by
  rw [callsBy, ahead, List.map_map, List.filterMap_reverse, List.reverse_reverse,
    List.filterMap_map]
  split_ifs with hSame
  · have hSome : DiscoveryEvent.callBy caller ∘ Task.event ∘ Task.call maker = some :=
      funext fun call => if_pos hSame
    rw [hSome, List.filterMap_some]
  · exact List.filterMap_eq_nil_iff.mpr fun call _ => if_neg hSame

theorem unused_calls (maker : Option Nat) (body : List DiscoveryCall) :
    (ahead (body.map (.call maker))).Pairwise fun later earlier =>
      ∀ copy, earlier = .released copy → ¬ later.Uses copy := by
  refine List.Pairwise.imp_of_mem (fun _ hMem _ copy hReleased => ?_)
    (List.pairwise_of_forall fun _ _ => trivial)
  obtain ⟨call, hCall⟩ := mem_ahead_calls hMem
  cases hCall.symm.trans hReleased

end Events

/-! ## One task is done -/

namespace Discovery

variable {calls : List DiscoveryCall} {discovery : Discovery} {task : Task} {tasks : List Task}

/-- The task is in the log, and has pushed what is to be done next. -/
def done (discovery : Discovery) (task : Task) (added tasks : List Task) : Discovery :=
  { discovery with tasks := added ++ tasks, log := task.event :: discovery.log }

theorem timeline_cons (hTasks : discovery.tasks = task :: tasks) :
    discovery.timeline = ahead tasks ++ task.event :: discovery.log := by
  rw [timeline, hTasks, ahead_cons, List.append_assoc]
  rfl

theorem timeline_done (discovery : Discovery) (task : Task) (added tasks : List Task) :
    (discovery.done task added tasks).timeline =
      ahead tasks ++ (ahead added ++ task.event :: discovery.log) := by
  rw [timeline, done, ahead_append, List.append_assoc]

/-- Nothing in the timeline uses the pending copy. -/
theorem Inv.pending_unused (hInv : discovery.Inv calls) {copy : Nat}
    (hPending : discovery.pending = some copy) :
    ∀ event ∈ discovery.timeline, ¬ event.Uses copy := by
  have hReleased := hInv.released.nodup_iff.mpr List.nodup_range
  have hInvoked := hInv.invoked.nodup_iff.mpr List.nodup_range
  rw [hPending, Option.toList_some, List.nodup_append] at hReleased hInvoked
  have hNotInvoked : copy ∉ invocations discovery.timeline := fun hMem =>
    hInvoked.2.2 copy (List.mem_append_left _ hMem) copy (List.mem_singleton_self _) rfl
  have hCalls : callsBy (some copy) discovery.timeline = [] := by
    rw [hInv.ran, if_neg]
    intro hMem
    rw [timeline, invocations_append] at hNotInvoked
    exact hNotInvoked (List.mem_append_right _ hMem)
  rintro event hMem (rfl | rfl | ⟨call, rfl⟩)
  · exact hNotInvoked (mem_invocations.mpr hMem)
  · exact hReleased.2.2 copy (mem_releases.mpr hMem) copy (List.mem_singleton_self _) rfl
  · exact not_mem_of_callsBy hCalls call hMem

/-- No invocation waits behind another task. -/
theorem Inv.not_waiting (hInv : discovery.Inv calls) (hTasks : discovery.tasks = task :: tasks)
    (gch : HandlerCopy) : .invoke gch ∉ tasks := by
  intro hMem
  obtain ⟨hHead, -⟩ := hInv.ready gch (hTasks ▸ List.mem_cons_of_mem _ hMem)
  rw [hTasks] at hHead
  obtain rfl := Option.some.inj hHead
  -- it would be done twice
  have hNodup := hInv.invoked.nodup_iff.mpr List.nodup_range
  rw [List.append_assoc, timeline_cons hTasks, invocations_append, List.append_assoc,
    List.nodup_append] at hNodup
  have hAhead : gch.id ∈ invocations (ahead tasks) := by
    rw [mem_invocations, ahead, List.mem_reverse]
    exact List.mem_map_of_mem hMem
  exact hNodup.2.2 _ hAhead _ (List.mem_append_left _ List.mem_cons_self) rfl

/-- The calls of `Stop` so far have been answered once the next task is done. -/
theorem Inv.answered_done (hInv : discovery.Inv calls) (hTasks : discovery.tasks = task :: tasks)
    {caller : Option Nat} {before : List DiscoveryEvent} {copy : Nat}
    (hSuffix : .called caller .stop :: before <:+ discovery.log)
    (hPending : pendingAfter before = some copy) :
    .invoked copy :: .called caller .stop :: before <:+ task.event :: discovery.log := by
  rcases hInv.answered caller before copy hSuffix hPending with hOld | ⟨hLog, gch, hHead, rfl⟩
  · exact hOld.trans (List.suffix_cons _ _)
  · rw [hTasks] at hHead
    obtain rfl := Option.some.inj hHead
    rw [hLog]
    exact List.suffix_rfl

/-- New tasks come between what was and what is still to be done. -/
theorem unused_insert {first added second : List DiscoveryEvent}
    (hUnused : (first ++ second).Pairwise fun later earlier =>
      ∀ copy, earlier = .released copy → ¬ later.Uses copy)
    (hAdded : added.Pairwise fun later earlier =>
      ∀ copy, earlier = .released copy → ¬ later.Uses copy)
    (hLater : ∀ copy, .released copy ∈ added → ∀ event ∈ first, ¬ event.Uses copy)
    (hEarlier : ∀ copy, .released copy ∈ second → ∀ event ∈ added, ¬ event.Uses copy) :
    (first ++ (added ++ second)).Pairwise fun later earlier =>
      ∀ copy, earlier = .released copy → ¬ later.Uses copy := by
  obtain ⟨hFirst, hSecond, hCross⟩ := List.pairwise_append.mp hUnused
  refine List.pairwise_append.mpr ⟨hFirst, List.pairwise_append.mpr ⟨hAdded, hSecond, ?_⟩, ?_⟩
  · rintro later hMem _ hReleased copy rfl
    exact hEarlier copy hReleased later hMem
  · rintro later hMem earlier hRest copy rfl
    rcases List.mem_append.mp hRest with hNew | hOld
    · exact hLater copy hNew later hMem
    · exact hCross later hMem _ hOld copy rfl

/-- New tasks may use the pending copy. -/
theorem Inv.unused_pending (hInv : discovery.Inv calls) (hTasks : discovery.tasks = task :: tasks)
    {added : List DiscoveryEvent}
    (hAdded : added.Pairwise fun later earlier =>
      ∀ copy, earlier = .released copy → ¬ later.Uses copy)
    (hOnly : ∀ event ∈ added, ∀ copy, event.Uses copy → discovery.pending = some copy) :
    (ahead tasks ++ (added ++ task.event :: discovery.log)).Pairwise fun later earlier =>
      ∀ copy, earlier = .released copy → ¬ later.Uses copy := by
  have hBefore := timeline_cons hTasks
  refine unused_insert (hBefore ▸ hInv.unused) hAdded ?_ ?_
  · intro copy hMem event hLater
    have hPending := hOnly _ hMem copy (.inr (.inl rfl))
    exact hInv.pending_unused hPending event (hBefore ▸ List.mem_append_left _ hLater)
  · intro copy hReleased event hMem hUses
    have hPending := hOnly event hMem copy hUses
    exact hInv.pending_unused hPending _ (hBefore ▸ List.mem_append_right _ hReleased)
      (.inr (.inl rfl))

/-- The invocations in the log are answers after the next task too. -/
theorem Inv.belongs_done (hInv : discovery.Inv calls) (hTasks : discovery.tasks = task :: tasks)
    {copy : Nat} {before : List DiscoveryEvent}
    (hSuffix : .invoked copy :: before <:+ task.event :: discovery.log) :
    ∃ caller rest, before = .called caller .stop :: rest ∧ pendingAfter rest = some copy := by
  rcases List.suffix_cons_iff.mp hSuffix with hAll | hEarlier
  · obtain ⟨hEvent, rfl⟩ := List.cons.inj hAll
    cases task with
    | invoke gch =>
        obtain rfl := DiscoveryEvent.invoked.inj hEvent
        obtain ⟨-, -, hStopped⟩ := hInv.ready gch (hTasks ▸ List.mem_cons_self)
        exact hStopped
    | call caller call => cases hEvent
    | release other => cases hEvent
  · exact hInv.belongs copy before hEarlier

/-- A task that is no call of `Stop`. -/
theorem Inv.answered_after (hInv : discovery.Inv calls) (hTasks : discovery.tasks = task :: tasks)
    (hNotStop : ∀ caller, task.event ≠ .called caller .stop) {caller : Option Nat}
    {before : List DiscoveryEvent} {copy : Nat}
    (hSuffix : .called caller .stop :: before <:+ task.event :: discovery.log)
    (hPending : pendingAfter before = some copy) :
    .invoked copy :: .called caller .stop :: before <:+ task.event :: discovery.log := by
  rcases List.suffix_cons_iff.mp hSuffix with hAll | hEarlier
  · exact absurd (List.cons.inj hAll).1.symm (hNotStop caller)
  · exact hInv.answered_done hTasks hEarlier hPending

/-- A task that only goes into the log. -/
theorem Inv.quiet (hInv : discovery.Inv calls) (hTasks : discovery.tasks = task :: tasks)
    (hPending : discovery.pending = pendingAfter (task.event :: discovery.log))
    (hHandlers : handlers (task.event :: discovery.log) = handlers discovery.log)
    (hReplaced : replaced (task.event :: discovery.log) = replaced discovery.log)
    (hInvocations : invocations (task.event :: discovery.log) = invocations discovery.log)
    (hStop : ∀ caller, task.event = .called caller .stop → discovery.pending = none) :
    (discovery.done task [] tasks).Inv calls := by
  have hSame : (discovery.done task [] tasks).timeline = discovery.timeline :=
    (timeline_cons hTasks).symm
  constructor
  · exact hPending
  · exact hInv.made.trans (congrArg List.length hHandlers.symm)
  · intro gch hSome
    exact (congrArg (·[gch.id]?) hHandlers).trans (hInv.held gch hSome)
  · exact fun gch hMem => absurd hMem (hInv.not_waiting hTasks gch)
  · rw [hSame]
    exact hInv.released
  · rw [hSame]
    show (_ ++ replaced (task.event :: discovery.log) ++ _).Perm _
    rw [hReplaced]
    exact hInv.invoked
  · intro caller before copy hSuffix hCopy
    rcases List.suffix_cons_iff.mp hSuffix with hAll | hEarlier
    · -- nothing was pending
      obtain ⟨hEvent, rfl⟩ := List.cons.inj hAll
      rw [← hInv.pending, hStop caller hEvent.symm] at hCopy
      cases hCopy
    · exact .inl (hInv.answered_done hTasks hEarlier hCopy)
  · exact fun copy before hSuffix => hInv.belongs_done hTasks hSuffix
  · rw [hSame]
    exact hInv.unused
  · intro copy
    rw [hSame]
    show _ = if copy ∈ invocations (task.event :: discovery.log) then
      (handlers (task.event :: discovery.log)).getD copy [] else []
    rw [hInvocations, hHandlers]
    exact hInv.ran copy
  · rw [hSame]
    exact hInv.application

theorem Inv.release {copy : Nat} (hInv : discovery.Inv calls)
    (hTasks : discovery.tasks = .release copy :: tasks) :
    (discovery.done (.release copy) [] tasks).Inv calls :=
  hInv.quiet hTasks hInv.pending rfl rfl rfl (fun _ => nofun)

/-- A `Stop` with no copy pending. -/
theorem Inv.stopNone {caller : Option Nat} (hInv : discovery.Inv calls)
    (hTasks : discovery.tasks = .call caller .stop :: tasks) (hNone : discovery.pending = none) :
    (discovery.done (.call caller .stop) [] tasks).Inv calls :=
  hInv.quiet hTasks hNone rfl rfl rfl (fun _ _ => hNone)

/-- A copy that is invoked makes the calls of its handler next. -/
theorem Inv.invoke {gch : HandlerCopy} (hInv : discovery.Inv calls)
    (hTasks : discovery.tasks = .invoke gch :: tasks) :
    (discovery.done (.invoke gch) (gch.body.map (.call (some gch.id))) tasks).Inv calls := by
  obtain ⟨-, hBody, -⟩ := hInv.ready gch (hTasks ▸ List.mem_cons_self)
  have hBefore := timeline_cons hTasks
  have hAfter := timeline_done discovery (.invoke gch) (gch.body.map (.call (some gch.id))) tasks
  -- it has not been invoked before
  have hFirst : gch.id ∉ invocations discovery.log := by
    have hNodup := hInv.invoked.nodup_iff.mpr List.nodup_range
    rw [List.append_assoc, hBefore, invocations_append, List.append_assoc] at hNodup
    have hRest := (List.nodup_append.mp hNodup).2.1
    exact fun hMem => (List.nodup_cons.mp hRest).1 (List.mem_append_left _ hMem)
  have hNever : callsBy (some gch.id) discovery.timeline = [] := by
    rw [hInv.ran, if_neg hFirst]
  constructor
  · exact hInv.pending
  · exact hInv.made
  · exact hInv.held
  · intro other hMem
    rcases List.mem_append.mp hMem with hNew | hOld
    · obtain ⟨call, -, hCall⟩ := List.mem_map.mp hNew
      cases hCall
    · exact absurd hOld (hInv.not_waiting hTasks other)
  · rw [hAfter, releases_append, releases_append, releases_calls, List.nil_append,
      ← releases_append, ← hBefore]
    exact hInv.released
  · rw [hAfter, invocations_append, invocations_append, invocations_calls, List.nil_append,
      ← invocations_append, ← hBefore]
    exact hInv.invoked
  · exact fun caller before other hSuffix hPending =>
      .inl (hInv.answered_after hTasks (fun _ => nofun) hSuffix hPending)
  · exact fun other before hSuffix => hInv.belongs_done hTasks hSuffix
  · rw [hAfter]
    refine unused_insert (hBefore ▸ hInv.unused) (unused_calls _ _) ?_ ?_
    · intro other hMem
      obtain ⟨call, hCall⟩ := mem_ahead_calls hMem
      cases hCall
    · -- its release is still ahead
      intro other hReleased event hMem hUses
      obtain ⟨call, rfl⟩ := mem_ahead_calls hMem
      have hSame : gch.id = other := by simpa [DiscoveryEvent.Uses] using hUses
      subst hSame
      rcases List.mem_cons.mp hReleased with hAbsurd | hEarlier
      · cases hAbsurd
      · have hUnused := hInv.unused
        rw [hBefore] at hUnused
        have hRest := (List.pairwise_append.mp hUnused).2.1
        exact (List.pairwise_cons.mp hRest).1 _ hEarlier _ rfl (.inl rfl)
  · intro copy
    rw [hAfter, callsBy_append, callsBy_append, callsBy_calls]
    show _ = if copy ∈ gch.id :: invocations discovery.log then _ else _
    by_cases hSame : gch.id = copy
    · subst hSame
      rw [hBefore, callsBy_append, List.append_eq_nil_iff] at hNever
      rw [hNever.1, hNever.2, if_pos rfl, if_pos List.mem_cons_self, List.nil_append,
        List.append_nil]
      show _ = (handlers discovery.log).getD gch.id []
      rw [List.getD_eq_getElem?_getD, hBody, Option.getD_some]
    · rw [if_neg (by simpa using hSame), List.append_nil, ← callsBy_append, ← hBefore, hInv.ran]
      simp only [List.mem_cons, Ne.symm hSame, false_or]
      rfl
  · rw [hAfter, callsBy_append, callsBy_append, callsBy_calls, if_neg nofun, List.append_nil,
      ← callsBy_append, ← hBefore]
    exact hInv.application

/-- A `Stop` has the pending copy invoked and released next. -/
theorem Inv.stopSome {caller : Option Nat} {gch : HandlerCopy} (hInv : discovery.Inv calls)
    (hTasks : discovery.tasks = .call caller .stop :: tasks)
    (hSome : discovery.discoveryCompletionHandler = some gch) :
    Inv calls { discovery.done (.call caller .stop) [.invoke gch, .release gch.id] tasks with
      discoveryCompletionHandler := none } := by
  have hPending : discovery.pending = some gch.id := congrArg _ hSome
  have hBefore := timeline_cons hTasks
  have hAfter : timeline { discovery.done (.call caller .stop) [.invoke gch, .release gch.id]
        tasks with discoveryCompletionHandler := none } =
      ahead tasks ++ ([.released gch.id, .invoked gch.id] ++
        .called caller .stop :: discovery.log) :=
    timeline_done discovery _ _ _
  constructor
  · rfl
  · exact hInv.made
  · exact nofun
  · intro other hMem
    rcases List.mem_cons.mp hMem with hFirst | hRest
    · obtain rfl := Task.invoke.inj hFirst
      exact ⟨rfl, hInv.held other hSome, caller, discovery.log, rfl,
        hInv.pending.symm.trans hPending⟩
    · rcases List.mem_cons.mp hRest with hRelease | hOld
      · cases hRelease
      · exact absurd hOld (hInv.not_waiting hTasks other)
  · have hReleased := hInv.released
    rw [hPending, hBefore, releases_append] at hReleased
    rw [hAfter, releases_append]
    refine .trans (List.perm_iff_count.mpr fun copy => ?_) hReleased
    show List.count copy (releases (ahead tasks) ++ gch.id :: releases discovery.log ++ []) =
      List.count copy (releases (ahead tasks) ++ releases discovery.log ++ [gch.id])
    simp only [List.count_append, List.count_cons, List.count_nil]
    omega
  · have hInvoked := hInv.invoked
    rw [hPending, hBefore, invocations_append] at hInvoked
    rw [hAfter, invocations_append]
    refine .trans (List.perm_iff_count.mpr fun copy => ?_) hInvoked
    show List.count copy (invocations (ahead tasks) ++ gch.id :: invocations discovery.log ++
        replaced discovery.log ++ []) =
      List.count copy (invocations (ahead tasks) ++ invocations discovery.log ++
        replaced discovery.log ++ [gch.id])
    simp only [List.count_append, List.count_cons, List.count_nil]
    omega
  · intro other before copy hSuffix hCopy
    rcases List.suffix_cons_iff.mp hSuffix with hAll | hEarlier
    · obtain ⟨hCaller, rfl⟩ := List.cons.inj hAll
      rw [← hInv.pending, hPending] at hCopy
      exact .inr ⟨hAll.symm, gch, rfl, Option.some.inj hCopy⟩
    · exact .inl (hInv.answered_done hTasks hEarlier hCopy)
  · exact fun other before hSuffix => hInv.belongs_done hTasks hSuffix
  · rw [hAfter]
    refine hInv.unused_pending hTasks (by simp) fun event hMem copy hUses => ?_
    have hSame : gch.id = copy := by
      simp only [List.mem_cons, List.not_mem_nil, or_false] at hMem
      rcases hMem with rfl | rfl <;> simpa [DiscoveryEvent.Uses] using hUses
    rw [hPending, hSame]
  · intro copy
    have hRan := hInv.ran copy
    rw [hBefore, callsBy_append] at hRan
    rw [hAfter, callsBy_append]
    exact hRan
  · have hApplication := hInv.application
    rw [hBefore, callsBy_append] at hApplication
    rw [hAfter, callsBy_append]
    exact hApplication

/-- The release of the copy that is replaced. -/
def giveUp (discovery : Discovery) : List Task :=
  (discovery.pending.map Task.release).toList

/-- A `Start` with a handler gives up the pending copy and makes a new one; a `Start`
with `nil` makes none. -/
theorem start_eq (aHandler : Option (List DiscoveryCall)) (discovery : Discovery) :
    discovery.start aHandler =
      { discoveryCompletionHandler := aHandler.map (⟨discovery.copies, ·⟩)
        tasks := discovery.giveUp ++ discovery.tasks
        copies := discovery.copies + if aHandler.isSome then 1 else 0
        log := discovery.log } := by
  unfold Discovery.start giveUp pending
  cases discovery.discoveryCompletionHandler <;> cases aHandler <;> rfl

/-- The call of a `Start` is in the log, and has been performed. -/
def started (discovery : Discovery) (caller : Option Nat)
    (aHandler : Option (List DiscoveryCall)) (tasks : List Task) : Discovery :=
  { discovery.done (.call caller (.start aHandler)) discovery.giveUp tasks with
    discoveryCompletionHandler := aHandler.map (⟨discovery.copies, ·⟩)
    copies := discovery.copies + if aHandler.isSome then 1 else 0 }

theorem ahead_giveUp (discovery : Discovery) :
    ahead discovery.giveUp = (discovery.pending.map DiscoveryEvent.released).toList := by
  rw [giveUp]
  cases discovery.pending <;> rfl

theorem releases_giveUp (discovery : Discovery) :
    releases (ahead discovery.giveUp) = discovery.pending.toList := by
  rw [ahead_giveUp]
  cases discovery.pending <;> rfl

theorem invocations_giveUp (discovery : Discovery) :
    invocations (ahead discovery.giveUp) = [] := by
  rw [ahead_giveUp]
  cases discovery.pending <;> rfl

theorem callsBy_giveUp (caller : Option Nat) (discovery : Discovery) :
    callsBy caller (ahead discovery.giveUp) = [] := by
  rw [ahead_giveUp]
  cases discovery.pending <;> rfl

theorem uses_giveUp {event : DiscoveryEvent} {copy : Nat} (hMem : event ∈ ahead discovery.giveUp)
    (hUses : event.Uses copy) : discovery.pending = some copy := by
  rw [ahead_giveUp, Option.mem_toList] at hMem
  obtain ⟨old, hPending, rfl⟩ := Option.map_eq_some_iff.mp hMem
  have hSame : old = copy := by simpa [DiscoveryEvent.Uses] using hUses
  rw [hPending, hSame]

theorem unused_giveUp (discovery : Discovery) :
    (ahead discovery.giveUp).Pairwise fun later earlier =>
      ∀ copy, earlier = .released copy → ¬ later.Uses copy := by
  rw [ahead_giveUp]
  cases discovery.pending with
  | none => exact .nil
  | some old => exact List.pairwise_singleton _ _

/-- The copies invoked are of the handlers so far. -/
theorem Inv.invoked_lt (hInv : discovery.Inv calls) {copy : Nat}
    (hMem : copy ∈ invocations discovery.log) : copy < (handlers discovery.log).length := by
  have hTimeline : copy ∈ invocations discovery.timeline := by
    rw [timeline, invocations_append]
    exact List.mem_append_right _ hMem
  have hMade := hInv.invoked.mem_iff.mp
    (List.mem_append_left _ (List.mem_append_left _ hTimeline))
  rwa [List.mem_range, hInv.made] at hMade

theorem handlers_start (caller : Option Nat) (aHandler : Option (List DiscoveryCall))
    (log : List DiscoveryEvent) :
    handlers (.called caller (.start aHandler) :: log) = handlers log ++ aHandler.toList := by
  cases aHandler with
  | none => exact (List.append_nil _).symm
  | some body => exact List.reverse_cons

theorem Inv.start {caller : Option Nat} {aHandler : Option (List DiscoveryCall)}
    (hInv : discovery.Inv calls)
    (hTasks : discovery.tasks = .call caller (.start aHandler) :: tasks) :
    (discovery.started caller aHandler tasks).Inv calls := by
  have hBefore := timeline_cons hTasks
  have hAfter : (discovery.started caller aHandler tasks).timeline =
      ahead tasks ++ (ahead discovery.giveUp ++
        .called caller (.start aHandler) :: discovery.log) :=
    timeline_done discovery _ _ _
  have hNew : (discovery.started caller aHandler tasks).pending =
      aHandler.map fun _ => discovery.copies := by
    rw [Discovery.pending, started, Option.map_map]
    rfl
  have hHandlers := handlers_start caller aHandler discovery.log
  -- the new copy is the only one that is new
  have hRange : List.range (discovery.started caller aHandler tasks).copies =
      List.range discovery.copies ++ (aHandler.map fun _ => discovery.copies).toList := by
    cases aHandler with
    | none => exact (List.append_nil _).symm
    | some body => exact List.range_succ
  constructor
  · rw [hNew, hInv.made]
    rfl
  · show discovery.copies + _ =
      (handlers (.called caller (.start aHandler) :: discovery.log)).length
    rw [hHandlers, List.length_append, ← hInv.made]
    cases aHandler <;> rfl
  · intro gch hSome
    obtain ⟨body, rfl, rfl⟩ := Option.map_eq_some_iff.mp hSome
    show (handlers (.called caller (.start (some body)) :: discovery.log))[discovery.copies]? = _
    rw [hHandlers, hInv.made]
    exact List.getElem?_concat_length
  · intro gch hMem
    rcases List.mem_append.mp hMem with hReleased | hOld
    · obtain ⟨copy, -, hCopy⟩ := Option.map_eq_some_iff.mp (Option.mem_toList.mp hReleased)
      cases hCopy
    · exact absurd hOld (hInv.not_waiting hTasks gch)
  · have hReleased := hInv.released
    rw [hBefore, releases_append] at hReleased
    rw [hNew, hAfter, releases_append, releases_append, releases_giveUp, hRange]
    refine List.Perm.append_right _ (.trans (List.perm_iff_count.mpr fun copy => ?_) hReleased)
    show List.count copy (_ ++ (_ ++ releases discovery.log)) =
      List.count copy (_ ++ releases discovery.log ++ _)
    simp only [List.count_append]
    omega
  · have hInvoked := hInv.invoked
    rw [hBefore, invocations_append] at hInvoked
    rw [hNew, hAfter, invocations_append, invocations_append, invocations_giveUp, hRange]
    refine List.Perm.append_right _ (.trans (List.perm_iff_count.mpr fun copy => ?_) hInvoked)
    show List.count copy (_ ++ (_ ++ invocations discovery.log) ++
        ((pendingAfter discovery.log).toList ++ replaced discovery.log)) =
      List.count copy (_ ++ invocations discovery.log ++ replaced discovery.log ++ _)
    rw [hInv.pending]
    simp only [List.count_append, List.count_nil]
    omega
  · exact fun other before copy hSuffix hPending =>
      .inl (hInv.answered_after hTasks (fun _ => nofun) hSuffix hPending)
  · exact fun other before hSuffix => hInv.belongs_done hTasks hSuffix
  · rw [hAfter]
    exact hInv.unused_pending hTasks (unused_giveUp discovery) fun _ hMem _ => uses_giveUp hMem
  · intro copy
    have hRan := hInv.ran copy
    rw [hBefore, callsBy_append] at hRan
    rw [hAfter, callsBy_append, callsBy_append, callsBy_giveUp, List.append_nil]
    refine hRan.trans ?_
    show _ = if copy ∈ invocations discovery.log then
      (handlers (.called caller (.start aHandler) :: discovery.log)).getD copy [] else []
    rw [hHandlers]
    refine if_ctx_congr Iff.rfl (fun hMem => ?_) fun _ => rfl
    rw [List.getD_eq_getElem?_getD, List.getD_eq_getElem?_getD,
      List.getElem?_append_left (hInv.invoked_lt hMem)]
  · have hApplication := hInv.application
    rw [hBefore, callsBy_append] at hApplication
    rw [hAfter, callsBy_append, callsBy_append, callsBy_giveUp, List.append_nil]
    exact hApplication

/-- Every task keeps the invariant. -/
theorem Inv.step {after : Discovery} (hInv : discovery.Inv calls)
    (hStep : discovery.step = some after) : after.Inv calls := by
  unfold Discovery.step at hStep
  split at hStep
  · cases hStep
  · rename_i task tasks hTasks
    obtain rfl := Option.some.inj hStep
    match task with
    | .release copy => exact hInv.release hTasks
    | .invoke gch => exact hInv.invoke hTasks
    | .call caller (.start aHandler) =>
        show Inv calls (Discovery.start aHandler _)
        rw [start_eq]
        exact hInv.start hTasks
    | .call caller .stop =>
        show Inv calls (Discovery.stop _)
        unfold Discovery.stop
        split
        · rename_i hNone
          exact hInv.stopNone hTasks (congrArg (Option.map HandlerCopy.id) hNone)
        · rename_i gch hSome
          exact hInv.stopSome hTasks hSome

theorem inv_initial (calls : List DiscoveryCall) : (initial calls).Inv calls := by
  have hTimeline : (initial calls).timeline = ahead (calls.map (.call none)) :=
    List.append_nil _
  constructor
  · rfl
  · rfl
  · exact nofun
  · intro gch hMem
    obtain ⟨call, -, hCall⟩ := List.mem_map.mp hMem
    cases hCall
  · rw [hTimeline, releases_calls]
    exact .refl _
  · rw [hTimeline, invocations_calls]
    exact .refl _
  · exact fun caller before copy hSuffix => nomatch List.suffix_nil.mp hSuffix
  · exact fun copy before hSuffix => nomatch List.suffix_nil.mp hSuffix
  · rw [hTimeline]
    exact unused_calls none calls
  · intro copy
    rw [hTimeline, callsBy_calls, if_neg nofun]
    rfl
  · rw [hTimeline, callsBy_calls, if_pos rfl]

/-! ## Termination -/

/-- What a task can still cause. -/
noncomputable def Task.weight : Task → Nat
  | .call _ call => sizeOf call
  | .invoke gch => sizeOf gch.body
  | .release _ => 1

/-- What some tasks can still cause. -/
noncomputable def weightOf (tasks : List Task) : Nat := (tasks.map Task.weight).sum

/-- What everything left can still cause. -/
noncomputable def weight (discovery : Discovery) : Nat :=
  weightOf discovery.tasks +
    (discovery.discoveryCompletionHandler.map fun gch => sizeOf gch.body + 1).getD 0

theorem weightOf_cons (task : Task) (tasks : List Task) :
    weightOf (task :: tasks) = Task.weight task + weightOf tasks := by
  rw [weightOf, List.map_cons, List.sum_cons]
  rfl

theorem weightOf_append (added tasks : List Task) :
    weightOf (added ++ tasks) = weightOf added + weightOf tasks := by
  rw [weightOf, List.map_append, List.sum_append]
  rfl

theorem weight_body (caller : Option Nat) (body : List DiscoveryCall) :
    weightOf (body.map (.call caller)) < sizeOf body := by
  induction body with
  | nil => simp [weightOf]
  | cons call body ih =>
      rw [List.map_cons, weightOf_cons, List.cons.sizeOf_spec, Task.weight]
      omega

/-- Giving up the pending copy costs less than the copy. -/
theorem weight_giveUp (discovery : Discovery) :
    weightOf discovery.giveUp ≤
      (discovery.discoveryCompletionHandler.map fun gch => sizeOf gch.body + 1).getD 0 := by
  rw [giveUp, pending]
  cases discovery.discoveryCompletionHandler with
  | none => exact Nat.le_refl _
  | some gch =>
      show weightOf [.release gch.id] ≤ sizeOf gch.body + 1
      rw [weightOf_cons, Task.weight, weightOf, List.map_nil, List.sum_nil]
      omega

theorem start_weight (aHandler : Option (List DiscoveryCall)) (discovery : Discovery) :
    (discovery.start aHandler).weight <
      sizeOf (DiscoveryCall.start aHandler) + discovery.weight := by
  have hGiveUp := weight_giveUp discovery
  rw [start_eq, weight, weight, weightOf_append]
  cases aHandler with
  | none =>
      rw [DiscoveryCall.start.sizeOf_spec]
      simp only [Option.map_none, Option.getD_none]
      omega
  | some body =>
      rw [DiscoveryCall.start.sizeOf_spec, Option.some.sizeOf_spec]
      simp only [Option.map_some, Option.getD_some]
      omega

theorem stop_weight (discovery : Discovery) : discovery.stop.weight ≤ discovery.weight := by
  unfold Discovery.stop
  split
  · exact Nat.le_refl _
  · rename_i gch hSome
    rw [weight, weight, weightOf_cons, weightOf_cons, hSome, Task.weight, Task.weight]
    simp only [Option.map_some, Option.getD_some, Option.map_none, Option.getD_none]
    omega

theorem step_weight (discovery after : Discovery) (hStep : discovery.step = some after) :
    after.weight < discovery.weight := by
  unfold Discovery.step at hStep
  split at hStep
  · cases hStep
  · rename_i task tasks hTasks
    obtain rfl := Option.some.inj hStep
    have hBefore : discovery.weight = Task.weight task +
        weight { discovery with tasks := tasks, log := task.event :: discovery.log } := by
      rw [weight, weight, hTasks, weightOf_cons, Nat.add_assoc]
    rw [hBefore]
    match task with
    | .release copy =>
        rw [perform, Task.weight]
        omega
    | .invoke gch =>
        have hBody := weight_body (some gch.id) gch.body
        simp only [perform, Task.weight, weight, weightOf_append]
        omega
    | .call caller (.start aHandler) => exact start_weight aHandler _
    | .call caller .stop =>
        refine Nat.lt_of_le_of_lt (stop_weight _) ?_
        simp [Task.weight]

theorem step_eq_none_iff : discovery.step = none ↔ discovery.tasks = [] := by
  unfold Discovery.step
  split
  · rename_i hTasks
    exact iff_of_true rfl hTasks
  · rename_i task tasks hTasks
    rw [hTasks]
    simp

/-! ## Runs -/

/-- When nothing is left to do, what has happened is in order. -/
theorem Inv.orderly (hInv : discovery.Inv calls) (hTasks : discovery.tasks = []) :
    Orderly calls discovery.log := by
  have hTimeline : discovery.timeline = discovery.log := by
    rw [timeline, hTasks]
    rfl
  have hInvoked := hInv.invoked.nodup_iff.mpr List.nodup_range
  rw [hTimeline, List.append_assoc] at hInvoked
  have hDisjoint := List.nodup_append.mp hInvoked
  constructor
  · exact hTimeline ▸ hInv.application
  · exact hTimeline ▸ hInv.ran
  · exact hDisjoint.1
  · exact fun copy hReplaced hMem =>
      hDisjoint.2.2 copy hMem copy (List.mem_append_left _ hReplaced) rfl
  · intro caller before copy hSuffix
    constructor
    · intro hAnswer
      obtain ⟨other, rest, hBefore, hPending⟩ := hInv.belongs copy _ hAnswer
      obtain ⟨-, rfl⟩ := List.cons.inj hBefore
      exact hPending
    · intro hPending
      rcases hInv.answered caller before copy hSuffix hPending with hAnswer | ⟨-, gch, hHead, -⟩
      · exact hAnswer
      · rw [hTasks] at hHead
        cases hHead
  · intro copy before hSuffix
    obtain ⟨caller, rest, hBefore, -⟩ := hInv.belongs copy before hSuffix
    exact ⟨caller, rest, hBefore⟩
  · exact hTimeline ▸ hInv.unused

theorem Inv.accounted (hInv : discovery.Inv calls) (hTasks : discovery.tasks = []) :
    discovery.Accounted := by
  refine ⟨hInv.pending, ?_⟩
  have hReleased := hInv.released
  rw [timeline, hTasks, hInv.made] at hReleased
  exact hReleased

/-- Whatever the application calls and whatever its handlers call in turn: everything
comes to an end, in order, and each copy has been released once or is the one that is
still pending. -/
theorem discovery_halts (calls : List DiscoveryCall) :
    ∃ final, Reaches step (initial calls) final ∧ final.tasks = [] ∧
      Orderly calls final.log ∧ final.Accounted := by
  obtain ⟨final, hReaches, hHalted⟩ := exists_halted weight step_weight (initial calls)
  have hTasks := step_eq_none_iff.mp hHalted
  have hInv : final.Inv calls :=
    hReaches.invariant (fun _ _ hInv hStep => hInv.step hStep) (inv_initial calls)
  exact ⟨final, hReaches, hTasks, hInv.orderly hTasks, hInv.accounted hTasks⟩

/-- A handler that starts discovery again, and stops it. -/
example : ((List.replicate 8 ()).foldlM (fun discovery _ => step discovery)
    (initial [.start (some [.start (some []), .stop]), .stop])).map (fun final =>
      (final.tasks, final.pending, invocations final.log, releases final.log)) =
    some ([], none, [1, 0], [0, 1]) := rfl

end Discovery

end Frontend
end MFiWrapper

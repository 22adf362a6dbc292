import ReplicaPool.Proofs.Learning.Upkeep
import ReplicaPool.Proofs.System.Integrity

/-!
# The filed role is the role learned last

Both the upkeep of a pool and the call that builds it file a connection under what its classification
showed. `System.Informed` says so of all pools at once, with the findings of the run so far. A finding is
about a connection of the pool whose work it comes from, so it leaves all other pools alone.
-/

namespace ReplicaPool

def Attempt.Informed (findings : List Finding) (attempt : Attempt) : Prop :=
  ∀ connection role, attempt.result = .ok (connection, role) →
    lastRole findings connection = some role

def Pool.Filed (findings : List Finding) (pool : Pool) : Prop :=
  ∀ addr connection role, pool.topology.lookup? addr = some (connection, role) →
    lastRole findings connection = some role

theorem Pool.Filed.informedUpkeep {findings : List Finding} {pool : Pool}
    (hfiled : pool.Filed findings) : InformedUpkeep findings pool [] where
  jobs := fun _ hmem => by cases hmem
  focused := List.Pairwise.nil
  filed := fun hentry => ⟨_, hfiled _ _ _ hentry, Or.inl rfl⟩

def Call.Informed (findings : List Finding) : Call → Prop
  | .reach pool slots => pool.Filed findings ∧
      ∀ slot ∈ slots, ∀ attempt, slot.attempt? = some attempt → attempt.Informed findings
  | .fill pool _ attempts => pool.Filed findings ∧
      ∀ attempt ∈ attempts, attempt.Informed findings
  | _ => True

section Calls

variable {findings later : List Finding} {world : World} {cluster : Cluster} {pool : Pool}
  {call : Call}

theorem Call.Informed.evolves (hsound : call.Sound cluster) (hinformed : call.Informed findings)
    (hsame : ∀ queue, call.queue? = some queue → ∀ connection addr,
      cluster.Serves connection addr queue →
        lastRole later connection = lastRole findings connection) :
    call.Informed later := by
  cases call with
  | reach pool slots =>
      obtain ⟨hfiled, hslots⟩ := hinformed
      refine ⟨fun addr connection role hentry => ?_,
        fun slot hmem attempt hattempt connection role hresult => ?_⟩
      · rw [hsame pool.queue rfl connection addr (hsound.sound.serves hentry)]
        exact hfiled addr connection role hentry
      · have hheld : (attempt.addr, some connection) ∈ slots.map Slot.held := by
          refine List.mem_map.mpr ⟨slot, hmem, ?_⟩
          cases slot <;> cases hattempt
          simp [Slot.held, Attempt.held, hresult, Except.toOption]
        rw [hsame pool.queue rfl connection _ (hsound.serves hheld)]
        exact hslots slot hmem attempt hattempt connection role hresult
  | fill pool alive attempts =>
      obtain ⟨hfiled, hattempts⟩ := hinformed
      refine ⟨fun addr connection role hentry => ?_, fun attempt hmem connection role hresult => ?_⟩
      · rw [hsame pool.queue rfl connection addr (hsound.sound.serves hentry)]
        exact hfiled addr connection role hentry
      · have hheld : (attempt.addr, some connection) ∈ attempts.map Attempt.held :=
          List.mem_map.mpr ⟨attempt, hmem, by simp [Attempt.held, hresult, Except.toOption]⟩
        rw [hsame pool.queue rfl connection _ (hsound.serves hheld)]
        exact hattempts attempt hmem connection role hresult
  | _ => trivial

theorem World.connection_of_endAttempt {limit dialled : Nat} {addr : String}
    {connection found : ConnectionId} {role : Role}
    (hresult : (world.endAttempt limit addr connection dialled).2.result = .ok (found, role)) :
    found = connection := by
  unfold endAttempt at hresult
  dsimp only at hresult
  split at hresult
  · cases hresult
  · split at hresult
    · cases hresult
      rfl
    · cases hresult

theorem World.informed_of_beginAttempt {queue : QueueId} {limit : Nat} {addr : String}
    {failed : Attempt} (hbegin : (world.beginAttempt queue limit addr).2 = .error failed) :
    failed.Informed findings := by
  unfold beginAttempt at hbegin
  intro connection role hresult
  split at hbegin
  · cases hbegin
    cases hresult
  · split at hbegin
    · cases hbegin
      cases hresult
    · cases hbegin

/-- An attempt ends with what its classification found out. -/
theorem Attempt.informed_concat {attempt : Attempt} {connection : ConnectionId}
    (hconnection : ∀ found role, attempt.result = .ok (found, role) → found = connection) :
    attempt.Informed (findings ++ [⟨connection, attempt.result.map Prod.snd⟩]) := by
  intro found role hresult
  rw [hconnection found role hresult, hresult]
  exact lastRole_concat_ok findings connection role

theorem Call.Informed.setSlot {slots : List Slot} {slot : Slot}
    (hinformed : (Call.reach pool slots).Informed findings) (place : Nat)
    (hslot : ∀ attempt, slot.attempt? = some attempt → attempt.Informed findings) :
    (Call.reach pool (slots.set place slot)).Informed findings := by
  refine ⟨hinformed.1, fun other hmem => ?_⟩
  rcases List.mem_or_eq_of_mem_set hmem with hold | rfl
  · exact hinformed.2 other hold
  · exact hslot

/-- A slot that has dialled classifies its connection, which no other slot and no entry has. -/
theorem Call.Informed.classify {slots : List Slot} {place elapsed : Nat} {addr : String}
    {connection : ConnectionId} {finding : Finding}
    (hsound : pool.Expects cluster (slots.map Slot.held))
    (hinformed : (Call.reach pool slots).Informed findings)
    (hplace : slots[place]? = some (.dialled addr connection elapsed))
    (hfinding : finding.connection = connection) {attempt : Attempt}
    (hattempt : attempt.Informed (findings ++ [finding])) :
    (Call.reach pool (slots.set place (.finished attempt))).Informed (findings ++ [finding]) := by
  obtain ⟨hfiled, hslots⟩ := hinformed
  have hheld : (slots.map Slot.held)[place]? = some (addr, some connection) := by
    rw [List.getElem?_map, hplace]
    rfl
  have hserves := hsound.serves (List.mem_of_getElem? hheld)
  have hother : ∀ found, connection ≠ found →
      lastRole (findings ++ [finding]) found = lastRole findings found := by
    intro found hne
    refine lastRole_append_of_ne fun other hmem => ?_
    rw [List.mem_singleton.mp hmem, hfinding]
    exact hne
  refine ⟨fun target found role hentry => ?_, fun slot hmem done hdone found role hresult => ?_⟩
  · rw [hother found, hfiled target found role hentry]
    rintro rfl
    have haddr := (hsound.sound.serves hentry).addr_unique hserves
    subst haddr
    have habsent := hsound.absent (List.mem_map.mpr ⟨_, List.mem_of_getElem? hheld, rfl⟩)
    rw [habsent] at hentry
    cases hentry
  · obtain ⟨index, hindex⟩ := List.mem_iff_getElem?.mp hmem
    by_cases hsame : index = place
    · subst hsame
      rw [List.getElem?_set_self (List.getElem?_eq_some_iff.mp hplace).1] at hindex
      cases hindex
      cases hdone
      exact hattempt found role hresult
    · rw [List.getElem?_set_ne (Ne.symm hsame)] at hindex
      rw [hother found, hslots slot (List.mem_of_getElem? hindex) done hdone found role hresult]
      rintro rfl
      have hanother : (slots.map Slot.held)[index]? = some (done.addr, some connection) := by
        rw [List.getElem?_map, hindex]
        cases slot <;> cases hdone
        simp [Slot.held, Attempt.held, hresult, Except.toOption]
      have haddr := (hsound.serves (List.mem_of_getElem? hanother)).addr_unique hserves
      have hlt : index < (slots.map Slot.held).length :=
        (List.getElem?_eq_some_iff.mp hanother).1
      refine hsame ((List.getElem?_inj (by simpa using hlt) hsound.addrs_nodup).mp ?_)
      rw [List.getElem?_map, hanother, List.getElem?_map, hheld]
      exact congrArg some haddr

theorem Call.Informed.advance (hsound : call.Sound world.cluster)
    (hinformed : call.Informed findings) (place : Nat) :
    (call.advance world place).2.Informed (findings ++ (call.finding? world place).toList) := by
  have hnothing : ∀ {call : Call}, call.Informed findings →
      call.Informed (findings ++ (none : Option Finding).toList) := by
    intro call hsame
    rwa [Option.toList_none, List.append_nil]
  cases call with
  | reach pool slots =>
      simp only [Call.advance, Call.finding?]
      split
      · refine hnothing ⟨hinformed.1, fun attempt hmem => ?_⟩
        obtain ⟨slot, hslot, hattempt⟩ := List.mem_filterMap.mp hmem
        exact hinformed.2 slot hslot attempt hattempt
      · cases hplace : slots[place]? with
        | none => exact hnothing hinformed
        | some slot =>
            cases slot with
            | waiting addr =>
                simp only [Slot.advance, Option.bind_some, Slot.finding?]
                refine hnothing (hinformed.setSlot place fun attempt hattempt => ?_)
                rcases hbegin : world.beginAttempt pool.queue pool.options.probeTimeout addr with
                  ⟨later, failed | ⟨connection, elapsed⟩⟩
                · rw [hbegin] at hattempt
                  cases hattempt
                  exact World.informed_of_beginAttempt (congrArg Prod.snd hbegin)
                · rw [hbegin] at hattempt
                  cases hattempt
            | dialled addr connection elapsed =>
                exact hinformed.classify hsound hplace rfl
                  (Attempt.informed_concat fun _ _ => World.connection_of_endAttempt)
            | finished attempt =>
                simp only [Slot.advance, Option.bind_some, Slot.finding?,
                  set_eq_of_getElem? hplace]
                exact hnothing hinformed
  | fill pool alive attempts =>
      cases attempts with
      | nil => cases alive <;> exact hnothing trivial
      | cons attempt rest =>
          obtain ⟨hfiled, hattempts⟩ := hinformed
          refine hnothing ⟨?_, fun other hmem => hattempts other (List.mem_cons_of_mem _ hmem)⟩
          split
          · rename_i connection role hresult
            intro target found filed hentry
            rw [Pool.file_eq hsound.sound.consistent] at hentry
            split at hentry
            · exact hfiled target found filed hentry
            · rw [hsound.sound.consistent.lookup?_put] at hentry
              split at hentry
              · cases hentry
                exact hattempts attempt List.mem_cons_self connection role hresult
              · exact hfiled target found filed hentry
          · exact hfiled
  | close service pending complaints => cases pending <;> exact hnothing trivial
  | _ => exact hnothing trivial

end Calls

namespace System

structure Informed (findings : List Finding) (system : System) : Prop where
  upkeep : ∀ {service : ServiceId} {present : Service},
    system.world.services[service]? = some present →
      InformedUpkeep findings present.pool present.upkeep.agenda
  calls : ∀ {place : Nat} {call : Call}, system.calls[place]? = some call →
    call.Informed findings

theorem informed_empty : Informed [] {} where
  upkeep := fun hpresent => by simp at hpresent
  calls := fun hcall => by simp at hcall

namespace Informed

variable {findings : List Finding} {system : System} {action : Action} {service : ServiceId}
  {present next : Service} {place : Nat} {call : Call} {queue : QueueId} {finding : Finding}

/-- A finding is about a connection of the pool whose work it comes from. -/
theorem serves_of_finding? (hsound : system.Sound) (hinformed : system.Informed findings)
    (hfinding : system.finding? action = some finding) :
    ∃ addr queue, system.world.cluster.Serves finding.connection addr queue ∧
      system.opens action queue := by
  cases action with
  | upkeep service =>
      obtain ⟨present, job, rest, hpresent, hagenda, -, -, hjob⟩ := finding?_upkeep hfinding
      have hmem : job ∈ present.upkeep.agenda := hagenda ▸ List.mem_cons_self
      obtain ⟨addr, hserves⟩ := (hinformed.upkeep hpresent).serves_subject
        (hsound.upkeep hpresent) hmem (InformedUpkeep.subject?_of_finding? hjob)
      exact ⟨addr, _, hserves, present, hpresent, rfl⟩
  | advance place step =>
      obtain ⟨call, hcall, hfound⟩ := Option.bind_eq_some_iff.mp hfinding
      cases call with
      | reach pool slots =>
          simp only [Call.finding?] at hfound
          split at hfound
          · cases hfound
          · obtain ⟨slot, hslot, hreport⟩ := Option.bind_eq_some_iff.mp hfound
            cases slot with
            | dialled addr connection elapsed =>
                cases hreport
                have hexpects : pool.Expects system.world.cluster (slots.map Slot.held) :=
                  hsound.calls hcall
                refine ⟨addr, pool.queue, hexpects.serves ?_, _, hcall, rfl⟩
                exact List.mem_map.mpr ⟨_, List.mem_of_getElem? hslot, rfl⟩
            | _ => cases hreport
      | _ => cases hfound
  | _ => cases hfinding

/-- Nothing is found out about the connections of a pool unless somebody works on it. -/
theorem lastRole_elsewhere (hsound : system.Sound) (hinformed : system.Informed findings)
    (hclosed : ¬system.opens action queue) {connection : ConnectionId} {addr : String}
    (hserves : system.world.cluster.Serves connection addr queue) :
    lastRole (findings ++ (system.finding? action).toList) connection =
      lastRole findings connection := by
  refine lastRole_append_of_ne fun finding hmem => ?_
  obtain ⟨target, other, hfound, hopens⟩ :=
    hinformed.serves_of_finding? hsound (Option.mem_toList.mp hmem)
  rintro rfl
  exact hclosed (hserves.queue_unique hfound ▸ hopens)

/-- A pool that somebody else's work leaves as it is, but for a cursor or the flag that closes it. -/
theorem keepUpkeep (hsound : system.Sound) (hinformed : system.Informed findings)
    (hpresent : system.world.services[service]? = some present)
    (hclosed : ¬system.opens action present.pool.queue) {moved : Pool}
    (hlookup : ∀ addr, moved.topology.lookup? addr = present.pool.topology.lookup? addr)
    (hshut : present.pool.isClosed = true → moved.isClosed = true) :
    InformedUpkeep (findings ++ (system.finding? action).toList) moved present.upkeep.agenda := by
  have hupkeep := hinformed.upkeep hpresent
  refine hupkeep.evolves hlookup hshut ?_ ?_
  · exact fun hentry => hinformed.lastRole_elsewhere hsound hclosed
      ((hsound.pool_sound hpresent).serves hentry)
  · intro job hjob connection hsubject
    obtain ⟨addr, hserves⟩ := hupkeep.serves_subject (hsound.upkeep hpresent) hjob hsubject
    exact hinformed.lastRole_elsewhere hsound hclosed hserves

theorem stepped (hsound : system.Sound) (hinformed : system.Informed findings)
    (hpresent : system.world.services[service]? = some present)
    (hstepped : present.Stepped system.world service action next) :
    InformedUpkeep (findings ++ (system.finding? action).toList) next.pool
      next.upkeep.agenda := by
  cases hstepped with
  | route mode =>
      exact hinformed.keepUpkeep hsound hpresent id (Pool.lookup?_resolve _ _ mode)
        fun hclosed => by rw [(Pool.resolve_snd _ _ mode).1, hclosed]
  | disown => exact hinformed.keepUpkeep hsound hpresent id (fun _ => rfl) id
  | shut hopen => exact hinformed.keepUpkeep hsound hpresent id (fun _ => rfl) fun _ => rfl
  | @work job rest hagenda hdue hrunning =>
      have hupkeep := hinformed.upkeep hpresent
      rw [hagenda] at hupkeep
      rw [finding?_of_work hpresent hagenda hdue hrunning]
      exact hupkeep.perform (hsound.pool_sound hpresent)
  | turn hagenda htakesUp =>
      have hupkeep := hinformed.upkeep hpresent
      rw [hagenda] at hupkeep
      rw [finding?_of_agenda_nil hpresent hagenda, Option.toList_none, List.append_nil]
      exact hupkeep.takesUp htakesUp

theorem keep (hsound : system.Sound) (hinformed : system.Informed findings)
    (hpresent : system.world.services[service]? = some present)
    (hother : action = .upkeep service → system.world.stepUpkeep service = none) :
    InformedUpkeep (findings ++ (system.finding? action).toList) present.pool
      present.upkeep.agenda := by
  by_cases hown : action = .upkeep service
  · subst hown
    rw [finding?_of_idle (hother rfl), Option.toList_none, List.append_nil]
    exact hinformed.upkeep hpresent
  · exact hinformed.keepUpkeep hsound hpresent (hsound.not_opens_of_service hpresent hown)
      (fun _ => rfl) id

theorem actUpkeep (hsound : system.Sound) (hinformed : system.Informed findings)
    (hnext : (system.act action).world.services[service]? = some next) :
    InformedUpkeep (findings ++ (system.finding? action).toList) next.pool
      next.upkeep.agenda := by
  have hservices := servicesStep_act system action
  generalize (system.act action).world.services = services at hservices hnext
  cases hservices with
  | same hidle => exact hinformed.keep hsound hnext (hidle service)
  | @set other present changed hpresent hstepped =>
      by_cases hsame : service = other
      · subst hsame
        rw [List.getElem?_set_self (List.getElem?_eq_some_iff.mp hpresent).1] at hnext
        cases hnext
        exact hinformed.stepped hsound hpresent hstepped
      · rw [List.getElem?_set_ne (Ne.symm hsame)] at hnext
        refine hinformed.keep hsound hnext fun haction => ?_
        subst haction
        cases hstepped <;> exact absurd rfl hsame
  | @launch place step pool haction hcall =>
      subst haction
      rw [List.getElem?_append] at hnext
      split at hnext
      · exact hinformed.keep hsound hnext fun haction => by cases haction
      · have hnothing : system.finding? (.advance place step) = none := by
          simp only [finding?, hcall]
          rfl
        rw [List.mem_singleton.mp (List.mem_of_getElem? hnext), hnothing, Option.toList_none,
          List.append_nil]
        have hfill : (Call.fill pool true []).Informed findings := hinformed.calls hcall
        exact hfill.1.informedUpkeep

theorem keepCall (hsound : system.Sound) (hinformed : system.Informed findings)
    (hcall : system.calls[place]? = some call) (hother : ∀ step, action ≠ .advance place step) :
    call.Informed (findings ++ (system.finding? action).toList) :=
  (hinformed.calls hcall).evolves (hsound.calls hcall) fun _ hqueue _ _ hserves =>
    hinformed.lastRole_elsewhere hsound (hsound.not_opens_of_call hcall hqueue hother) hserves

theorem appendCall (hsound : system.Sound) (hinformed : system.Informed findings)
    (hother : ∀ place step, action ≠ .advance place step) (fresh : Call)
    (hfresh : fresh.Informed (findings ++ (system.finding? action).toList))
    (hcall : (system.calls ++ [fresh])[place]? = some call) :
    call.Informed (findings ++ (system.finding? action).toList) := by
  rw [List.getElem?_append] at hcall
  split at hcall
  · exact hinformed.keepCall hsound hcall (hother place)
  · rw [List.mem_singleton.mp (List.mem_of_getElem? hcall)]
    exact hfresh

theorem actCalls (hsound : system.Sound) (hinformed : system.Informed findings)
    (hcall : (system.act action).calls[place]? = some call) :
    call.Informed (findings ++ (system.finding? action).toList) := by
  cases callsStep_act system action with
  | same hidle hcalls =>
      rw [hcalls] at hcall
      refine hinformed.keepCall hsound hcall fun step haction => ?_
      rw [hidle place step haction] at hcall
      cases hcall
  | @build addrs options pool haction hprepare hcalls =>
      rw [hcalls] at hcall
      refine hinformed.appendCall hsound (fun _ _ hadvance => ?_)
        (.reach pool (pool.topology.addrs.map .waiting)) ⟨?_, ?_⟩ hcall
      · rw [haction] at hadvance
        cases hadvance
      · obtain ⟨-, -, htopology, -⟩ := World.prepare_ok hprepare
        intro addr connection role hentry
        rw [htopology] at hentry
        cases hentry
      · intro slot hmem attempt hattempt
        obtain ⟨addr, -, rfl⟩ := List.mem_map.mp hmem
        cases hattempt
  | @refuse other present haction hpresent hclosed hcalls =>
      rw [hcalls] at hcall
      refine hinformed.appendCall hsound (fun _ _ hadvance => ?_) (.closed other []) trivial hcall
      rw [haction] at hadvance
      cases hadvance
  | @shut other present next haction hpresent hopen hnext hclosed hcalls =>
      rw [hcalls] at hcall
      refine hinformed.appendCall hsound (fun _ _ hadvance => ?_)
        (.close other present.pool.topology.connections []) trivial hcall
      rw [haction] at hadvance
      cases hadvance
  | @advance index step before haction hbefore hcalls =>
      subst haction
      rw [hcalls] at hcall
      by_cases hsame : place = index
      · subst hsame
        rw [List.getElem?_set_self (List.getElem?_eq_some_iff.mp hbefore).1] at hcall
        cases hcall
        have hfinding : system.finding? (.advance place step) =
            before.finding? system.world step := by
          simp only [finding?, hbefore, Option.bind_some]
        rw [hfinding]
        exact (hinformed.calls hbefore).advance (hsound.calls hbefore) step
      · rw [List.getElem?_set_ne (Ne.symm hsame)] at hcall
        refine hinformed.keepCall hsound hcall fun _ haction => hsame ?_
        cases haction
        rfl

theorem act (hsound : system.Sound) (hinformed : system.Informed findings) (action : Action) :
    (system.act action).Informed (findings ++ (system.finding? action).toList) where
  upkeep := fun hnext => hinformed.actUpkeep hsound hnext
  calls := fun hcall => hinformed.actCalls hsound hcall

theorem run (hsound : system.Sound) (hinformed : system.Informed findings)
    (actions : List Action) :
    (system.run actions).Informed (findings ++ system.findings actions) := by
  induction actions generalizing system findings with
  | nil =>
      rw [System.findings, List.append_nil]
      exact hinformed
  | cons action rest ih =>
      have hrest := ih (hsound.act action) (hinformed.act hsound action)
      rwa [List.append_assoc] at hrest

end Informed

variable {system : System} {findings : List Finding} {service : ServiceId} {present : Service}
  {pool : Pool} {addr : String} {connection : ConnectionId} {role : Role}

theorem informed_run (actions : List Action) :
    (run {} actions).Informed (System.findings {} actions) := by
  have hinformed := informed_empty.run sound_empty actions
  rwa [List.nil_append] at hinformed

theorem Informed.exists_lastRole (hinformed : system.Informed findings) (hpool : pool ∈ system.pools)
    (hentry : pool.topology.lookup? addr = some (connection, role)) :
    ∃ learned, lastRole findings connection = some learned := by
  rcases List.mem_append.mp hpool with hservice | hcall
  · obtain ⟨present, hmem, rfl⟩ := List.mem_map.mp hservice
    obtain ⟨service, hpresent⟩ := List.mem_iff_getElem?.mp hmem
    obtain ⟨learned, hlearned, -⟩ := (hinformed.upkeep hpresent).filed hentry
    exact ⟨learned, hlearned⟩
  · obtain ⟨call, hmem, hbuilding⟩ := List.mem_filterMap.mp hcall
    obtain ⟨place, hplace⟩ := List.mem_iff_getElem?.mp hmem
    have hknows := hinformed.calls hplace
    cases call <;> cases hbuilding <;> exact ⟨role, hknows.1 addr connection role hentry⟩

/-- Only the worker of its pool finds something out about a connection that has an entry, and if that is a
failure, nothing comes of it. -/
theorem Informed.act_of_error {action : Action} {cause : PoolError} (hsound : system.Sound)
    (hinformed : system.Informed findings)
    (hpresent : system.world.services[service]? = some present)
    (hentry : present.pool.topology.lookup? addr = some (connection, role))
    (hfinding : system.finding? action = some ⟨connection, .error cause⟩) :
    ∃ next job, (system.act action).world.services[service]? = some next ∧
      next.pool = present.pool ∧ present.upkeep.agenda = job :: next.upkeep.agenda := by
  have haction : action = .upkeep service := by
    by_contra hother
    obtain ⟨target, queue, hserves, hopens⟩ := hinformed.serves_of_finding? hsound hfinding
    have hqueue := ((hsound.pool_sound hpresent).serves hentry).queue_unique hserves
    exact hsound.not_opens_of_service hpresent hother (hqueue ▸ hopens)
  subst haction
  obtain ⟨next, hnext, ⟨-, hidle⟩ | hstepped⟩ := stepped_act hpresent (.upkeep service)
  · rw [finding?_of_idle (hidle rfl)] at hfinding
    cases hfinding
  · cases hstepped with
    | @work job rest hagenda hdue hrunning =>
        rw [finding?_of_work hpresent hagenda hdue hrunning] at hfinding
        have hupkeep := hinformed.upkeep hpresent
        rw [hagenda] at hupkeep
        have hperform := hupkeep.perform_of_error hfinding hentry
        refine ⟨_, job, hnext, congrArg Prod.fst hperform, hagenda.trans ?_⟩
        rw [hperform]
        rfl
    | turn hagenda htakesUp =>
        rw [finding?_of_agenda_nil hpresent hagenda] at hfinding
        cases hfinding

/-- An entry of an open pool at rest has the role that the most recent successful classification of its
connection showed. No connection has an entry without one, and a classification that fails leaves the
entries, and the work that is still to be done, as they are. -/
theorem filed_as_last_learned (actions : List Action) :
    (∀ present ∈ (run {} actions).world.services, present.pool.isClosed = false →
      present.upkeep.agenda = [] → ∀ (role : Role) (addr : String) (connection : ConnectionId),
        (addr, connection) ∈ (present.pool.topology.subpool role).members →
          lastRole (System.findings {} actions) connection = some role) ∧
    (∀ pool ∈ (run {} actions).pools, ∀ (role : Role) (addr : String) (connection : ConnectionId),
      (addr, connection) ∈ (pool.topology.subpool role).members →
        ∃ learned, ⟨connection, .ok learned⟩ ∈ System.findings {} actions) ∧
    ∀ (service : ServiceId) (present : Service) (action : Action) (connection : ConnectionId)
      (cause : PoolError), (run {} actions).world.services[service]? = some present →
      (run {} actions).finding? action = some ⟨connection, .error cause⟩ →
      connection ∈ present.pool.topology.connections →
        ∃ (next : Service) (job : Job),
          ((run {} actions).act action).world.services[service]? = some next ∧
          next.pool = present.pool ∧ present.upkeep.agenda = job :: next.upkeep.agenda := by
  have hsound : (run {} actions).Sound := Reachable.sound ⟨actions, rfl⟩
  have hinformed := informed_run actions
  refine ⟨?_, ?_, ?_⟩
  · intro present hmem hopen hidle role addr connection hentry
    obtain ⟨service, hpresent⟩ := List.mem_iff_getElem?.mp hmem
    have hlookup := (hsound.pool_sound hpresent).consistent.lookup?_eq_some_iff.mpr hentry
    obtain ⟨learned, hlearned, hrole | hclosed | hpending⟩ :=
      (hinformed.upkeep hpresent).filed hlookup
    · rw [hlearned, hrole]
    · rw [hopen] at hclosed
      cases hclosed
    · rw [hidle] at hpending
      cases hpending
  · intro pool hpool role addr connection hentry
    have hlookup := (hsound.pool_of_mem hpool).consistent.lookup?_eq_some_iff.mpr hentry
    obtain ⟨learned, hlearned⟩ := hinformed.exists_lastRole hpool hlookup
    exact ⟨learned, mem_of_lastRole hlearned⟩
  · intro service present action connection cause hpresent hfinding hmem
    obtain ⟨role, addr, hentry⟩ := Topology.mem_connections_iff.mp hmem
    have hlookup := (hsound.pool_sound hpresent).consistent.lookup?_eq_some_iff.mpr hentry
    exact hinformed.act_of_error hsound hpresent hlookup hfinding

def refiledRun : List Action :=
  soloRun ++ [.change (.setReadOnly 0 true), .elapse 1000] ++ List.replicate 7 (.upkeep 0)

/-- The next refresh of `refiledRun` is about to get a server error for a role. -/
def misledRun : List Action :=
  refiledRun ++ [.script "127.0.0.1:3301" { infoFailure := some (32, "no role") }, .elapse 1000] ++
    List.replicate 3 (.upkeep 0)

theorem filed_as_last_learned_refiled :
    lastRole (System.findings {} refiledRun) 0 = some .replica ∧
      ∃ present next job, (run {} misledRun).world.services[0]? = some present ∧
        ((run {} misledRun).act (.upkeep 0)).world.services[0]? = some next ∧
        next.pool = present.pool ∧ present.upkeep.agenda = job :: next.upkeep.agenda := by
  constructor
  · have hservice : (run {} refiledRun).world.services[0]?.map (fun present =>
        (present.pool.isClosed, present.upkeep.agenda.isEmpty,
          decide (("127.0.0.1:3301", 0) ∈ present.pool.topology.ro.members))) =
        some (false, true, true) := by
      decide +kernel
    obtain ⟨present, hpresent, hvalues⟩ := Option.map_eq_some_iff.mp hservice
    obtain ⟨hopen, hvalues⟩ := Prod.mk.inj hvalues
    obtain ⟨hidle, hentry⟩ := Prod.mk.inj hvalues
    exact (filed_as_last_learned refiledRun).1 present (List.mem_of_getElem? hpresent) hopen
      (List.isEmpty_iff.mp hidle) .replica _ _ (of_decide_eq_true hentry)
  · have hservice : (run {} misledRun).world.services[0]?.map (fun present =>
        decide (0 ∈ present.pool.topology.connections)) = some true := by
      decide +kernel
    obtain ⟨present, hpresent, hmem⟩ := Option.map_eq_some_iff.mp hservice
    have hfinding : ((run {} misledRun).finding? (.upkeep 0)).map (fun finding =>
        (finding.connection, finding.outcome.toOption)) = some (0, none) := by
      decide +kernel
    obtain ⟨⟨connection, outcome⟩, hfinding, hvalues⟩ := Option.map_eq_some_iff.mp hfinding
    obtain ⟨rfl, houtcome⟩ := Prod.mk.inj hvalues
    cases outcome with
    | ok role => cases houtcome
    | error cause =>
        obtain ⟨next, job, hnext⟩ := (filed_as_last_learned misledRun).2.2 0 present _ 0 cause
          hpresent hfinding (of_decide_eq_true hmem)
        exact ⟨present, next, job, hpresent, hnext⟩

end System

end ReplicaPool

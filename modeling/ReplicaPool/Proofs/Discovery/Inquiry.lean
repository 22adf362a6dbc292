import ReplicaPool.Proofs.Discovery.Course

/-!
# Asking for the members

The first stages of a discovery change nothing: the worker picks a master, sends it the call, and takes the
members from the reply. Of a reply that is rows of names, these are the names of the first row, each where
it occurs first.
-/

namespace ReplicaPool

/-! ### Replies -/

theorem mapM_eq_ok_self {α ε : Type} {check : α → Except ε α} {values : List α}
    (hcheck : ∀ value ∈ values, check value = .ok value) : values.mapM check = .ok values := by
  induction values with
  | nil => rfl
  | cons value rest ih =>
      rw [List.mapM_cons, hcheck value List.mem_cons_self,
        ih fun other hmem => hcheck other (List.mem_cons_of_mem _ hmem)]
      rfl

theorem decode_sequence (element : Shape) (values : List Json) :
    (Shape.sequence element).decode (.array values) =
      (values.mapM element.decode).map .array := rfl

theorem decode_sequence_self {element : Shape} {values : List Json}
    (hvalues : ∀ value ∈ values, element.decode value = .ok value) :
    (Shape.sequence element).decode (.array values) = .ok (.array values) := by
  rw [decode_sequence, mapM_eq_ok_self hvalues]
  rfl

/-- The members are the names of the first row without their later duplicates. -/
theorem membersOfReply_names (names : List String) (others : List (List String)) :
    membersOfReply ((names :: others).map fun row => .array (row.map .string)) =
      .ok names.eraseDups := by
  have hdecode : (Shape.sequence (.sequence .text)).decode
      (.array ((names :: others).map fun row => .array (row.map .string))) =
        .ok (.array ((names :: others).map fun row => .array (row.map .string))) := by
    apply decode_sequence_self
    intro value hvalue
    obtain ⟨row, -, rfl⟩ := List.mem_map.mp hvalue
    apply decode_sequence_self
    intro text htext
    obtain ⟨name, -, rfl⟩ := List.mem_map.mp htext
    rfl
  have hnames : (names.map Json.string).filterMap Json.string? = names := by
    rw [List.filterMap_map]
    exact List.filterMap_some
  have hmembers : membersOfReply ((names :: others).map fun row => .array (row.map .string)) =
      .ok (distinct ((names.map Json.string).filterMap Json.string?)) := by
    rw [membersOfReply, hdecode]
    rfl
  rw [hmembers, hnames, distinct_eq_eraseDups]

/-! ### Stages -/

def Job.asks : Job → Bool
  | .discover => true
  | .learn _ _ => true
  | _ => false

/-- What is left of a discovery before the members are known. -/
inductive Asking : List Job → Prop
  | discover : Asking [.discover]
  | learn (connection : ConnectionId) (script : Script) : Asking [.learn connection script]
  | wait (due : Nat) (connection : ConnectionId) (script : Script) :
      Asking [.wait due, .learn connection script]

section Stages

variable {world : World} {pool : Pool} {job follower : Job} {rest : List Job}

theorem asks_of_leads (hjob : job.leads = false) : job.asks = false := by
  cases job <;> first | rfl | cases hjob

theorem asks_perform (hjob : job.asks = false)
    (hmem : follower ∈ (world.perform pool job).2.2) : follower.asks = false := by
  cases hleads : job.leads with
  | false => exact asks_of_leads (ManagedUpkeep.aims_perform hleads hmem).1
  | true =>
      cases job with
      | reconcile fresh gone members =>
          cases fresh with
          | cons addr fresh =>
              simp only [World.perform] at hmem
              split at hmem
              · cases hmem
              · rcases List.mem_cons.mp hmem with rfl | hlast
                · rfl
                · rw [List.mem_singleton.mp hlast]
                  rfl
          | nil =>
              cases gone with
              | cons addr gone =>
                  rcases List.mem_append.mp hmem with hclosing | hlast
                  · obtain ⟨removed, -, rfl⟩ := List.mem_map.mp hclosing
                    rfl
                  · rw [List.mem_singleton.mp hlast]
                    rfl
              | nil => cases hmem
      | discover => cases hjob
      | learn connection script => cases hjob
      | _ => cases hleads

/-- A worker that asks goes on asking and leaves its pool alone, or it knows what to do. -/
theorem Asking.perform (hasking : Asking (job :: rest)) :
    (∀ follower ∈ (world.perform pool job).2.2 ++ rest, follower.asks = false) ∨
      (Asking ((world.perform pool job).2.2 ++ rest) ∧
        pool.SameEntries (world.perform pool job).2.1) := by
  cases hasking with
  | discover =>
      simp only [World.perform, List.append_nil]
      split
      · exact Or.inl fun _ hmem => by cases hmem
      · have hsame := Pool.sameEntries_resolve world.isConnected pool .rw
        generalize pool.resolve world.isConnected .rw = resolved at hsame ⊢
        rcases resolved with ⟨cause | connection, moved⟩
        · exact Or.inl fun _ hmem => by cases hmem
        · refine Or.inr ⟨?_, hsame⟩
          simp only [World.beginDiscovery]
          split
          · exact .learn _ _
          · exact .wait _ _ _
  | learn connection script =>
      refine Or.inl fun follower hmem => ?_
      rw [List.append_nil] at hmem
      simp only [World.perform] at hmem
      split at hmem
      · cases hmem
      · rcases onReply_cases pool.topology (world.answer connection _ script).2 with
          hnone | ⟨fresh, gone, members, -, -, hreply⟩
        · rw [hnone] at hmem
          cases hmem
        · rw [hreply] at hmem
          rw [List.mem_singleton.mp hmem]
          rfl
  | wait due connection script => exact Or.inr ⟨.learn connection script, .refl pool⟩

end Stages

namespace System

variable {system : System} {service : ServiceId} {present : Service} {before : Pool}
  {actions : List Action} {rest : List Job}

/-- A worker of an open pool that is about to discover the members has nothing else to do, and only the
managed addresses have entries. -/
theorem Reachable.managed_of_discover (hreachable : system.Reachable)
    (hpresent : system.world.services[service]? = some present)
    (hagenda : present.upkeep.agenda = .discover :: rest)
    (hopen : present.pool.isClosed = false) :
    rest = [] ∧ ∀ addr entry, present.pool.topology.lookup? addr = some entry →
      addr ∈ present.pool.topology.addrs := by
  have hupkeep := hreachable.managed.upkeep hpresent hopen
  rw [hagenda] at hupkeep
  obtain rfl := hupkeep.rest_eq_nil rfl
  exact ⟨rfl, fun _ _ hentry => (hupkeep.idle rfl).filed hentry⟩

/-- A worker that began a discovery is still asking, and its pool is as it was; or the members are known,
or the pool was closed. -/
def Inquires (system : System) (service : ServiceId) (before : Pool) (actions : List Action) : Prop :=
  ∃ present, (system.run actions).world.services[service]? = some present ∧
    (present.pool.isClosed = true ∨ (∀ job ∈ present.upkeep.agenda, job.asks = false) ∨
      (Asking present.upkeep.agenda ∧ before.SameEntries present.pool ∧
        ∀ addr connection, ¬(system.chronicle service before.queue actions).made addr connection))

theorem Inquires.begin (hreachable : system.Reachable)
    (hpresent : system.world.services[service]? = some present)
    (hagenda : present.upkeep.agenda = .discover :: rest) :
    system.Inquires service present.pool [] := by
  refine ⟨present, hpresent, ?_⟩
  cases hopen : present.pool.isClosed with
  | true => exact Or.inl rfl
  | false =>
      refine Or.inr (Or.inr ⟨?_, .refl _, fun addr connection hmade => ?_⟩)
      · rw [hagenda, (hreachable.managed_of_discover hpresent hagenda hopen).1]
        exact .discover
      · exact absurd hmade.1 (Nat.not_le.mpr hmade.2.lt_length)

theorem Inquires.act (hreachable : system.Reachable) (action : Action)
    (hinquires : system.Inquires service before actions)
    (hbusy : (system.run actions).agenda service ≠ []) :
    system.Inquires service before (actions ++ [action]) := by
  obtain ⟨present, hpresent, hstage⟩ := hinquires
  rw [agenda_eq hpresent] at hbusy
  obtain ⟨next, hnext, ⟨job, rest, rfl, hagenda, hdue, hrunning, hpool, hlater⟩ |
    ⟨hquiet, hlater, hkept⟩⟩ := busy_act (hreachable.run actions) hpresent hbusy action
  · refine ⟨next, by rw [run_concat, hnext], ?_⟩
    rw [hpool, hlater, (World.sectioned_perform _ _ _).isClosed_eq]
    rw [hagenda] at hstage
    rcases hstage with hclosed | hknows | ⟨hasking, hsame, hunmade⟩
    · exact Or.inl hclosed
    · refine Or.inr (Or.inl fun follower hmem => ?_)
      rcases List.mem_append.mp hmem with hfirst | hrest
      · exact asks_perform (hknows job List.mem_cons_self) hfirst
      · exact hknows follower (List.mem_cons_of_mem _ hrest)
    · have hextends := chronicle_extends hreachable hpresent hagenda hdue hrunning
      have hqueue : present.pool.queue = before.queue := by rw [hsame.rest]
      rw [hqueue] at hextends
      refine Or.inr (hasking.perform.imp_right ?_)
      rintro ⟨hnext, hmoved⟩
      refine ⟨hnext, hsame.trans hmoved, fun addr connection hmade => ?_⟩
      rcases hextends.made.mp hmade with hbefore | ⟨purpose, rfl, -⟩
      · exact hunmade addr connection hbefore
      · cases hasking
  · refine ⟨next, by rw [run_concat, hnext], ?_⟩
    rw [hlater]
    rcases hkept with hclosed | hmoved
    · exact Or.inl hclosed
    · rw [hmoved.isClosed_eq]
      refine hstage.imp_right (Or.imp_right ?_)
      rintro ⟨hasking, hsame, hunmade⟩
      have hqueue : present.pool.queue = before.queue := by rw [hsame.rest]
      rw [hqueue] at hquiet
      refine ⟨hasking, hsame.trans hmoved, fun addr connection => ?_⟩
      rw [(agrees_of_quiet hquiet addr).made]
      exact hunmade addr connection

end System

end ReplicaPool

import ReplicaPool.Proofs.Places
import ReplicaPool.Session.Ring

/-!
# Closing all members

Closing a rotation attempts every member once, in the order of rotation, whatever the attempts before have
come to, and returns exactly the failures. `RoundRobin.attempts` is what it attempts: each member with the
outcome that closing it has in the state the earlier attempts have led to.
-/

namespace ReplicaPool

namespace RoundRobin

variable {α σ ε : Type}

/-! ### Attempts -/

def attempts (close : α → σ → Option ε × σ) : List α → σ → List (α × Option ε)
  | [], _ => []
  | member :: rest, state => (member, (close member state).1) :: attempts close rest (close member state).2

def closeEach (close : α → σ → Option ε × σ) (members : List α) (state : σ) : σ :=
  members.foldl (fun state member => (close member state).2) state

/-- Closing with a record of the attempts. -/
def recording (close : α → σ → Option ε × σ) (member : α) (recorded : σ × List (α × Option ε)) :
    Option ε × (σ × List (α × Option ε)) :=
  let (failure, state) := close member recorded.1
  (failure, state, recorded.2 ++ [(member, failure)])

variable (close : α → σ → Option ε × σ)

theorem map_fst_attempts (members : List α) (state : σ) :
    (attempts close members state).map Prod.fst = members := by
  induction members generalizing state with
  | nil => rfl
  | cons member rest ih => rw [attempts, List.map_cons, ih]

theorem attempts_append (early late : List α) (state : σ) : attempts close (early ++ late) state =
    attempts close early state ++ attempts close late (closeEach close early state) := by
  induction early generalizing state with
  | nil => rfl
  | cons member rest ih => rw [List.cons_append, attempts, ih, attempts, List.cons_append]; rfl

/-- If nothing that is closed changes how closing a member ends, the failures are those of the members. -/
theorem filterMap_attempts (failure : σ → α → Option ε) (hends : ∀ state member,
    (close member state).1 = failure state member)
    (hkept : ∀ state member, failure (close member state).2 = failure state) (members : List α) (state : σ) :
    (attempts close members state).filterMap Prod.snd = members.filterMap (failure state) := by
  induction members generalizing state with
  | nil => rfl
  | cons member rest ih =>
      have hrest := ih (close member state).2
      rw [hkept] at hrest
      rw [attempts, List.filterMap_cons, List.filterMap_cons, hrest, hends]

theorem closeAll_eq (ring : RoundRobin α) (state : σ) : ring.closeAll close state =
    ((attempts close (ring.members.map Prod.snd) state).filterMap Prod.snd,
      closeEach close (ring.members.map Prod.snd) state) := by
  have hfold : ∀ (members : List (String × α)) (state : σ) (failures : List ε),
      members.foldl (fun sofar entry =>
        (sofar.1 ++ (close entry.2 sofar.2).1.toList, (close entry.2 sofar.2).2)) (failures, state) =
      (failures ++ (attempts close (members.map Prod.snd) state).filterMap Prod.snd,
        closeEach close (members.map Prod.snd) state) := by
    intro members
    induction members with
    | nil =>
        intro state failures
        rw [List.map_nil, attempts, List.filterMap_nil, List.append_nil]
        rfl
    | cons entry rest ih =>
        intro state failures
        rw [List.foldl_cons, ih, List.map_cons, attempts, List.filterMap_cons, List.append_assoc]
        cases (close entry.2 state).1 <;> rfl
  exact hfold ring.members state []

theorem attempts_recording (members : List α) (state : σ) (earlier : List (α × Option ε)) :
    (attempts (recording close) members (state, earlier)).filterMap Prod.snd =
      (attempts close members state).filterMap Prod.snd ∧
    closeEach (recording close) members (state, earlier) =
      (closeEach close members state, earlier ++ attempts close members state) := by
  induction members generalizing state earlier with
  | nil => exact ⟨rfl, by rw [attempts, List.append_nil]; rfl⟩
  | cons member rest ih =>
      obtain ⟨hfailures, hstate⟩ :=
        ih (close member state).2 (earlier ++ [(member, (close member state).1)])
      constructor
      · rw [attempts, attempts, List.filterMap_cons, List.filterMap_cons]
        simp only [recording, hfailures]
      · rw [List.append_assoc, List.singleton_append] at hstate
        exact hstate

/-! ### All members -/

/-- Closing all members attempts each of them once and returns exactly the failures. A record of the
attempts shows it, which changes nothing else. -/
structure ClosesEach (close : α → σ → Option ε × σ) (ring : RoundRobin α) (state : σ) : Prop where
  recorded : ring.closeAll (recording close) (state, []) =
    ((ring.closeAll close state).1, (ring.closeAll close state).2,
      attempts close (ring.members.map Prod.snd) state)
  attempted : (attempts close (ring.members.map Prod.snd) state).map Prod.fst = ring.members.map Prod.snd
  failures : (ring.closeAll close state).1 =
    (attempts close (ring.members.map Prod.snd) state).filterMap Prod.snd

theorem closesEach (ring : RoundRobin α) (state : σ) : ring.ClosesEach close state where
  recorded := by
    obtain ⟨hfailures, hstate⟩ := attempts_recording close (ring.members.map Prod.snd) state []
    rw [closeAll_eq, closeAll_eq, hfailures, hstate, List.nil_append]
  attempted := map_fst_attempts close _ state
  failures := by rw [closeAll_eq]

end RoundRobin

namespace RingSession

/-! ### Dummies -/

def failure (dummies : List Dummy) (id : Nat) : Option ConnectionError :=
  ((dummies[id]?).bind Dummy.closeFailure).map .client

theorem failure_closeDummy (dummies : List Dummy) (id : Nat) :
    failure (closeDummy id dummies).2 = failure dummies := by
  funext other
  rw [failure, failure, closeDummy, List.getElem?_modify]
  by_cases hsame : id = other <;> cases dummies[other]? <;> simp [hsame]

theorem closes_closeEach (ids : List Nat) (dummies : List Dummy) (id : Nat) :
    ((RoundRobin.closeEach closeDummy ids dummies)[id]?).map Dummy.closes =
      (dummies[id]?).map fun dummy => dummy.closes + ids.count id := by
  induction ids generalizing dummies with
  | nil => rfl
  | cons first rest ih =>
      have hfirst : (RoundRobin.closeEach closeDummy (first :: rest) dummies) =
          RoundRobin.closeEach closeDummy rest (closeDummy first dummies).2 := rfl
      rw [hfirst, ih, closeDummy, List.getElem?_modify, List.count_cons]
      cases dummies[id]? with
      | none => rfl
      | some dummy =>
          by_cases hsame : first = id
          · simp [hsame, Nat.add_assoc, Nat.add_comm 1]
          · simp [hsame]

/-- Closing the members of a rotation leaves the rotation as it is, counts once for every member, and
returns the failures of those that have one, in the order of rotation. -/
structure ClosesMembers (session : RingSession) : Prop where
  ring_eq : (session.perform .closeAll).1.ring = session.ring
  closes : ∀ id, ((session.perform .closeAll).1.dummies[id]?).map Dummy.closes =
    (session.dummies[id]?).map fun dummy =>
      dummy.closes + (session.ring.members.map Prod.snd).count id
  failures : ∃ counts, (session.perform .closeAll).2 =
    .closed ((session.ring.members.map Prod.snd).filterMap (failure session.dummies)) counts

theorem closesMembers (session : RingSession) : session.ClosesMembers where
  ring_eq := rfl
  closes := fun id => by
    rw [← closes_closeEach]
    simp only [perform, RoundRobin.closeAll_eq]
  failures := by
    have hfailures := RoundRobin.filterMap_attempts closeDummy failure (fun _ _ => rfl) failure_closeDummy
      (session.ring.members.map Prod.snd) session.dummies
    refine ⟨(session.perform .closeAll).1.closeCounts, ?_⟩
    rw [← hfailures]
    simp only [perform, RoundRobin.closeAll_eq]

end RingSession

end ReplicaPool

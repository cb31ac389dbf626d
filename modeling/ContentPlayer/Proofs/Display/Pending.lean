import ContentPlayer.Display.Constructors
import Mathlib.Data.List.Basic

namespace ContentPlayer

/-- The call of a constructor that has not run yet. -/
def Node.call? (n : Node) : Option ConstructorCall := n.pending.map (⟨n.name, ·⟩)

/-- An object whose constructor has run. -/
def Node.spent (n : Node) : Node := { n with pending := none }

theorem Node.spent_eq_self {n : Node} (hn : n.pending = none) : n.spent = n := by
  cases n
  cases hn
  rfl

/-- The failure that an answer to a constructor's call stands for, if it failed. -/
def ConstructorCall.failure? (call : ConstructorCall) :
    Except ScriptError Unit → Option ConstructorFailure
  | .error e => some ⟨call.target, e⟩
  | .ok () => none

theorem ConstructorReport.record_eq (r : ConstructorReport) (call : ConstructorCall)
    (answer : Except ScriptError Unit) :
    r.record call.target answer =
      ⟨r.executed + 1, r.failures ++ (call.failure? answer).toList⟩ := by
  cases answer <;> simp [record, ConstructorCall.failure?]

namespace DisplayTree

/-- The call of the constructor that an object still has to run. -/
def call? (t : DisplayTree) (id : NodeId) : Option ConstructorCall := (t.node? id).bind Node.call?

variable {ω : Type} (run : ω → ConstructorCall → ω × Except ScriptError Unit)

/-- Calls that are made one after the other, each with what it was answered. -/
def answers : ω → List ConstructorCall → List (ConstructorCall × Except ScriptError Unit)
  | _, [] => []
  | w, call :: calls => (call, (run w call).2) :: answers (run w call).1 calls

theorem map_fst_answers (w : ω) (calls : List ConstructorCall) :
    (answers run w calls).map Prod.fst = calls := by
  induction calls generalizing w with
  | nil => rfl
  | cons call calls ih => rw [answers, List.map_cons, ih]

theorem runPending_cons (id : NodeId) (ids : List NodeId) (w : ω) (t : DisplayTree)
    (report : ConstructorReport) :
    runPending run (id :: ids) (w, t, report) =
      match t.call? id with
      | some call => runPending run ids
          ((run w call).1, t.setPending id none, report.record call.target (run w call).2)
      | none => runPending run ids (w, t, report) := by
  rw [runPending]
  cases hnode : t.node? id with
  | none => simp [call?, hnode]
  | some n =>
    obtain ⟨name, timeline, parent, children, pending, loader⟩ := n
    cases pending <;> simp [call?, hnode, Node.call?]

theorem node?_setPending_none (t : DisplayTree) (id k : NodeId) :
    (t.setPending id none).node? k = if k = id then (t.node? k).map Node.spent else t.node? k :=
  t.node?_modify id k _

/-- Objects whose constructors are run are spent afterwards, and all else is as it was. -/
theorem node?_runPending (ids : List NodeId) (w : ω) (t : DisplayTree)
    (report : ConstructorReport) (k : NodeId) :
    (runPending run ids (w, t, report)).2.1.node? k =
      if k ∈ ids then (t.node? k).map Node.spent else t.node? k := by
  induction ids generalizing w t report with
  | nil => rfl
  | cons id ids ih =>
    have hspent (n : Option Node) : (n.map Node.spent).map Node.spent = n.map Node.spent := by
      cases n <;> rfl
    rw [runPending_cons]
    cases hcall : t.call? id with
    | some call =>
      dsimp only
      rw [ih, node?_setPending_none]
      by_cases hk : k = id <;> by_cases hmem : k ∈ ids <;> simp [hk, hmem, hspent]
    | none =>
      dsimp only
      rw [ih]
      by_cases hk : k = id
      · subst hk
        -- nothing was pending there
        have hself : (t.node? k).map Node.spent = t.node? k := by
          cases hnode : t.node? k with
          | none => rfl
          | some n =>
            simp only [call?, hnode, Option.bind_some, Node.call?, Option.map_eq_none_iff] at hcall
            rw [Option.map_some, Node.spent_eq_self hcall]
        simp [hself]
      · simp [hk]

/-- The constructors of different objects are called one after the other, whatever each is answered;
what they do outside, and the report on them, is what these calls make. -/
theorem runPending_calls {ids : List NodeId} (hids : ids.Nodup) (w : ω) (t : DisplayTree)
    (report : ConstructorReport) :
    let calls := ids.filterMap t.call?
    (runPending run ids (w, t, report)).1 = calls.foldl (fun w call => (run w call).1) w ∧
      (runPending run ids (w, t, report)).2.2 = ⟨report.executed + calls.length,
        report.failures ++ (answers run w calls).filterMap fun a => a.1.failure? a.2⟩ := by
  induction ids generalizing w t report with
  | nil => exact ⟨rfl, by simp [runPending, answers]⟩
  | cons id ids ih =>
    obtain ⟨hid, hids⟩ := List.nodup_cons.mp hids
    have hcalls : ids.filterMap (t.setPending id none).call? = ids.filterMap t.call? := by
      refine List.filterMap_congr fun k hk => ?_
      have hne : k ≠ id := ne_of_mem_of_not_mem hk hid
      rw [call?, node?_setPending_none, if_neg hne, call?]
    rw [runPending_cons]
    cases hcall : t.call? id with
    | none =>
      rw [List.filterMap_cons_none hcall]
      exact ih hids w t report
    | some call =>
      obtain ⟨houtside, hreport⟩ := ih hids (run w call).1 (t.setPending id none)
        (report.record call.target (run w call).2)
      rw [hcalls] at houtside hreport
      rw [List.filterMap_cons_some hcall]
      refine ⟨houtside, hreport.trans ?_⟩
      rw [ConstructorReport.record_eq, answers, List.length_cons, Nat.add_right_comm, Nat.add_assoc,
        List.append_assoc, List.filterMap_cons]
      cases hfailure : call.failure? (run w call).2 <;> simp

end DisplayTree

end ContentPlayer

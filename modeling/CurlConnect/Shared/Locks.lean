import CurlConnect.Shared.Preservation
import Mathlib.Logic.Relation

/-!
The two levels of locks of the registry: `contexts_mtx`, and the mutex of each entry.
From `Inv`, in every state of every interleaving:

* from `_get_context` to its end, an `execute` keeps the entry it resolved, with the same
  mutex and a connection, and no two threads are inside the code that runs on one id's
  connection under the entry mutex;
* `contexts_mtx` is held while waiting for, or holding, an entry mutex, but only by a
  constructor on an id the registry already holds; `nestedRun` is a run in which such a
  constructor waits, with `contexts_mtx` held, for an `execute` inside its transfer, and a
  call of `nconnections` on another id waits for it;
* no thread holding an entry mutex waits for `contexts_mtx`, so the waits-for relation
  between threads goes up a rank at each edge and has no cycle;
* so the chain of threads a thread inside a call waits for ends at one that can take its
  next step now, or at one inside a transfer that does not return (`busy_threads_progress`).
-/

namespace CurlConnect

open SharedHTTPConnection

variable {env : Env} {order : EvalOrder} {s : Sys} {t : Nat}

/-- Thread 0 constructs a front-end on id 1 and executes it; while its transfer runs under the
entry's mutex, thread 1 constructs a second front-end on id 1 and thread 2 calls
`nconnections(2)`. -/
def nestedRun : Sys :=
  let s₁ := (Sys.init.call 0 (.construct "https://h".toList .httpGet 1)).lockGlobal
    Env.accepting .rhsFirst 0
  let s₂ := ((s₁.call 0 (.execute 0 false)).lockGlobal Env.accepting .rhsFirst 0).lockEntry
    Env.accepting 0
  ((s₂.call 1 (.construct "https://h".toList .httpGet 1)).lockGlobal Env.accepting .rhsFirst
    1).call 2 (.nconnections 2)

theorem owns_of_objects_nil (s : Sys) (t : Nat) {op : Op} (h : op.objects = []) : s.Owns t op :=
  fun i hi => by simp [h] at hi

theorem nestedRun_reachable : Reachable Env.accepting .rhsFirst nestedRun := by
  have h₁ : Reachable Env.accepting .rhsFirst _ :=
    (Reachable.init.call 0 (.construct "https://h".toList .httpGet 1) rfl
      (owns_of_objects_nil _ _ rfl)).lockGlobal 0 rfl rfl
  have h₂ := ((h₁.call 0 (.execute 0 false) rfl fun i hi => by
    simp only [Op.objects, List.mem_singleton] at hi
    subst hi
    exact ⟨_, rfl, rfl⟩).lockGlobal 0 rfl rfl).lockEntry 0 1 rfl rfl
  exact ((h₂.call 1 (.construct "https://h".toList .httpGet 1) rfl
    (owns_of_objects_nil _ _ rfl)).lockGlobal 1 rfl rfl).call 2 (.nconnections 2) rfl
    (owns_of_objects_nil _ _ rfl)

/-- Thread `t` runs code on the connection of `cid` under the entry's mutex: the
constructor's reconfiguration of an entry that exists, or `execute` once it holds the
mutex. -/
def InEntrySection (s : Sys) (t : Nat) (cid : Int) : Prop :=
  (∃ url meth m, s.pc t = .ctorHold url meth cid m) ∨
    ∃ obj m o, ((∃ b, s.pc t = .execPerform obj b m) ∨ s.pc t = .execHold obj m) ∧
      s.objs[obj]? = some o ∧ o.fe.id = cid

theorem Inv.holds_entry_mutex (hinv : Inv order s) {cid : Int} (h : InEntrySection s t cid) :
    ∃ ctx, s.contexts cid = some ctx ∧ s.mutexes ctx.mtx = some t := by
  rcases h with ⟨url, meth, m, hp⟩ | ⟨obj, m, o, ⟨b, hp⟩ | hp, ho, rfl⟩
  · obtain ⟨ctx, hx, hm, -⟩ := hinv.pcAt hp
    exact ⟨ctx, hx, (hinv.mutex t _).mpr (by rw [hp, hm]; rfl)⟩
  all_goals
    obtain ⟨o', ctx, ho', -, -, hx, hm, -⟩ := hinv.pcAt hp
    rw [ho] at ho'
    cases ho'
    exact ⟨ctx, hx, (hinv.mutex t _).mpr (by rw [hp, hm]; rfl)⟩

/-- From `_get_context` to the end of `execute` the front-end's entry stays, with the mutex
`execute` resolved and a connection; and at most one thread at a time runs code on the
connection of an id under the entry mutex, the transfer included. -/
theorem execute_entry_stable_and_sections_exclusive (h : Reachable env order s) :
    (∀ t obj b m, (s.pc t = .execWait obj b m ∨ s.pc t = .execPerform obj b m ∨
        s.pc t = .execHold obj m) →
      ∃ o ctx, s.objs[obj]? = some o ∧ o.fe.isOpen ∧ s.contexts o.fe.id = some ctx ∧
        ctx.mtx = m ∧ ctx.conn.isSome) ∧
    ∀ t u cid, InEntrySection s t cid → InEntrySection s u cid → t = u := by
  have hinv := Inv.reachable env h
  refine ⟨fun t obj b m hp => ?_, fun t u cid ht hu => ?_⟩
  · have hpc : PcAt order s t (s.pc t) := hinv.pcOk t
    rcases hp with hp | hp | hp <;> rw [hp] at hpc <;>
      obtain ⟨o, ctx, ho, -, hopen, hx, hm, hc⟩ := hpc <;>
      exact ⟨o, ctx, ho, hopen, hx, hm, hc⟩
  · obtain ⟨ctx, hx, ht'⟩ := hinv.holds_entry_mutex ht
    obtain ⟨ctx', hx', hu'⟩ := hinv.holds_entry_mutex hu
    rw [hx] at hx'
    cases hx'
    exact Option.some_injective _ (ht'.symm.trans hu')

theorem nestedRun_execute_entry :
    nestedRun.pc 0 = .execPerform 0 false 1 ∧ ∃ o ctx, nestedRun.objs[0]? = some o ∧
      o.fe.isOpen ∧ nestedRun.contexts o.fe.id = some ctx ∧ ctx.mtx = 1 ∧ ctx.conn.isSome :=
  ⟨rfl, (execute_entry_stable_and_sections_exclusive nestedRun_reachable).1 0 0 false 1
    (.inr (.inl rfl))⟩

/-- Thread `t` is blocked on a lock that thread `u` holds. -/
def WaitsFor (s : Sys) (t u : Nat) : Prop :=
  ((s.pc t).waitsGlobal ∧ s.global = some u) ∨
    ∃ m, (s.pc t).waitsEntry = some m ∧ s.mutexes m = some u

/-- While thread 0 is inside the transfer of a request on id 1 under the entry mutex, thread 1,
constructing a front-end on id 1, holds `contexts_mtx` and waits for that mutex, and thread 2,
calling `nconnections(2)` on another id, waits for `contexts_mtx`. -/
theorem construct_waits_for_execute_under_global :
    Reachable Env.accepting .rhsFirst nestedRun ∧ nestedRun.pc 0 = .execPerform 0 false 1 ∧
      nestedRun.global = some 1 ∧ nestedRun.pc 1 = .ctorEntry "https://h".toList .httpGet 1 1 ∧
      WaitsFor nestedRun 1 0 ∧ nestedRun.pc 2 = .countWait 2 ∧ WaitsFor nestedRun 2 1 :=
  ⟨nestedRun_reachable, rfl, rfl, rfl, .inr ⟨1, rfl, rfl⟩, rfl, .inl ⟨rfl, rfl⟩⟩

/-- A thread that holds `contexts_mtx` while it waits for or holds an entry mutex is a
constructor on an id the registry holds, and the mutex is that entry's; a thread holding an
entry mutex does not wait for `contexts_mtx`. -/
theorem global_held_only_by_found_constructor (h : Reachable env order s) :
    (∀ t m, s.global = some t → ((s.pc t).waitsEntry = some m ∨ (s.pc t).holdsEntry = some m) →
      ∃ url meth cid ctx,
        (s.pc t = .ctorEntry url meth cid m ∨ s.pc t = .ctorHold url meth cid m) ∧
        s.contexts cid = some ctx ∧ ctx.mtx = m) ∧
    ∀ t m, s.mutexes m = some t → (s.pc t).waitsGlobal = false := by
  have hinv := Inv.reachable env h
  refine ⟨fun t m hg hm => ?_, fun t m hm => ?_⟩
  · have hg := (hinv.global t).mp hg
    have hpc : PcAt order s t (s.pc t) := hinv.pcOk t
    cases hp : s.pc t <;> rw [hp] at hg hm hpc <;> simp [Pc.holdsGlobal] at hg
    case ctorEntry url meth cid m' =>
      obtain ⟨ctx, hx, hm', -⟩ := hpc
      obtain rfl : m' = m := by simpa [Pc.waitsEntry, Pc.holdsEntry] using hm
      exact ⟨url, meth, cid, ctx, .inl rfl, hx, hm'⟩
    case ctorHold url meth cid m' =>
      obtain ⟨ctx, hx, hm', -⟩ := hpc
      obtain rfl : m' = m := by simpa [Pc.waitsEntry, Pc.holdsEntry] using hm
      exact ⟨url, meth, cid, ctx, .inr rfl, hx, hm'⟩
  · have hm := (hinv.mutex t m).mp hm
    cases hp : s.pc t <;> rw [hp] at hm <;> simp_all [Pc.holdsEntry, Pc.waitsGlobal]

theorem global_held_only_by_found_constructor_nestedRun :
    ∃ url meth cid ctx,
      (nestedRun.pc 1 = .ctorEntry url meth cid 1 ∨ nestedRun.pc 1 = .ctorHold url meth cid 1) ∧
      nestedRun.contexts cid = some ctx ∧ ctx.mtx = 1 :=
  (global_held_only_by_found_constructor nestedRun_reachable).1 1 1 rfl (.inl rfl)

/-- The place of a thread in the lock order: waiting for `contexts_mtx`, then waiting for an
entry mutex, then holding one. -/
def Pc.rank : Pc → Nat
  | .ctorEntry .. | .execWait .. => 1
  | .ctorHold .. | .execPerform .. | .execHold .. => 2
  | _ => 0

theorem Pc.rank_of_waitsGlobal {p : Pc} (h : p.waitsGlobal) : p.rank = 0 := by
  cases p <;> simp_all [Pc.waitsGlobal, Pc.rank]

theorem Pc.one_le_rank_of_holdsGlobal {p : Pc} (h : p.holdsGlobal) : 1 ≤ p.rank := by
  cases p <;> simp_all [Pc.holdsGlobal, Pc.rank]

theorem Pc.rank_of_waitsEntry {p : Pc} {m : Nat} (h : p.waitsEntry = some m) : p.rank = 1 := by
  cases p <;> simp_all [Pc.waitsEntry, Pc.rank]

theorem Pc.rank_of_holdsEntry {p : Pc} {m : Nat} (h : p.holdsEntry = some m) : p.rank = 2 := by
  cases p <;> simp_all [Pc.holdsEntry, Pc.rank]

theorem Inv.rank_lt_of_waitsFor (hinv : Inv order s) {u : Nat} (h : WaitsFor s t u) :
    (s.pc t).rank < (s.pc u).rank := by
  rcases h with ⟨hw, hg⟩ | ⟨m, hw, hm⟩
  · have := Pc.one_le_rank_of_holdsGlobal ((hinv.global u).mp hg)
    rw [Pc.rank_of_waitsGlobal hw]
    omega
  · rw [Pc.rank_of_waitsEntry hw, Pc.rank_of_holdsEntry ((hinv.mutex u m).mp hm)]
    omega

/-- No thread waits, through a chain of threads each blocked on a lock the next one holds,
for itself. -/
theorem waitsFor_acyclic (h : Reachable env order s) (t : Nat) :
    ¬ Relation.TransGen (WaitsFor s) t t := by
  have hinv := Inv.reachable env h
  have hrank : ∀ a b, Relation.TransGen (WaitsFor s) a b → (s.pc a).rank < (s.pc b).rank := by
    intro a b hab
    induction hab with
    | single h => exact hinv.rank_lt_of_waitsFor h
    | tail _ h ih => exact ih.trans (hinv.rank_lt_of_waitsFor h)
  exact fun hc => lt_irrefl _ (hrank t t hc)

theorem waitsFor_acyclic_nestedRun : ¬ Relation.TransGen (WaitsFor nestedRun) 2 2 :=
  waitsFor_acyclic nestedRun_reachable 2

/-- The thread is inside a call of the registry: it waits for a lock or holds an entry mutex. -/
def Pc.busy : Pc → Bool
  | .idle | .aborted => false
  | _ => true

theorem Pc.busy_cases {p : Pc} (h : p.busy) :
    p.waitsGlobal ∨ (∃ m, p.waitsEntry = some m) ∨ p.releases ∨ p.inTransfer := by
  cases p <;> simp_all [Pc.busy, Pc.waitsGlobal, Pc.waitsEntry, Pc.releases, Pc.inTransfer]

theorem Pc.busy_of_holdsGlobal {p : Pc} (h : p.holdsGlobal) : p.busy := by
  cases p <;> simp_all [Pc.busy, Pc.holdsGlobal]

theorem Pc.busy_of_holdsEntry {p : Pc} {m : Nat} (h : p.holdsEntry = some m) : p.busy := by
  cases p <;> simp_all [Pc.busy, Pc.holdsEntry]

theorem Pc.rank_le_two (p : Pc) : p.rank ≤ 2 := by
  cases p <;> simp [Pc.rank]

/-- Thread `t` can take the lock it waits for now, let go of the entry mutex it holds, or
return from a transfer that returns. -/
def CanMove (env : Env) (s : Sys) (t : Nat) : Prop :=
  ((s.pc t).waitsGlobal ∧ s.global = none) ∨
    (∃ m, (s.pc t).waitsEntry = some m ∧ s.mutexes m = none) ∨ (s.pc t).releases ∨
    s.transferReturns env t

/-- Thread `t` is inside a `curl_easy_perform` that does not return. -/
def InStuckTransfer (env : Env) (s : Sys) (t : Nat) : Prop :=
  (s.pc t).inTransfer ∧ s.transferReturns env t = false

theorem Inv.canMove_or_waitsFor (env : Env) (hinv : Inv order s) (hb : (s.pc t).busy) :
    CanMove env s t ∨ InStuckTransfer env s t ∨ ∃ u, WaitsFor s t u ∧ (s.pc u).busy := by
  rcases Pc.busy_cases hb with hw | ⟨m, hw⟩ | hr | hi
  · cases hg : s.global with
    | none => exact .inl (.inl ⟨hw, hg⟩)
    | some u =>
      exact .inr (.inr ⟨u, .inl ⟨hw, hg⟩, Pc.busy_of_holdsGlobal ((hinv.global u).mp hg)⟩)
  · cases hm : s.mutexes m with
    | none => exact .inl (.inr (.inl ⟨m, hw, hm⟩))
    | some u =>
      exact .inr (.inr ⟨u, .inr ⟨m, hw, hm⟩, Pc.busy_of_holdsEntry ((hinv.mutex u m).mp hm)⟩)
  · exact .inl (.inr (.inr (.inl hr)))
  · cases hret : s.transferReturns env t with
    | false => exact .inr (.inl ⟨hi, hret⟩)
    | true => exact .inl (.inr (.inr (.inr hret)))

/-- The chain of waits from a thread inside a call ends at a thread that can move or is inside
a transfer that does not return; it is finite because each edge goes up a rank. -/
theorem Inv.exists_canMove (env : Env) (hinv : Inv order s) (t : Nat) (hb : (s.pc t).busy) :
    ∃ u, Relation.ReflTransGen (WaitsFor s) t u ∧ (CanMove env s u ∨ InStuckTransfer env s u) := by
  rcases hinv.canMove_or_waitsFor env hb with hm | hm | ⟨u, hw, hu⟩
  · exact ⟨t, .refl, .inl hm⟩
  · exact ⟨t, .refl, .inr hm⟩
  · obtain ⟨v, hv, hm⟩ := hinv.exists_canMove env u hu
    exact ⟨v, .head hw hv, hm⟩
termination_by 2 - (s.pc t).rank
decreasing_by
  have := hinv.rank_lt_of_waitsFor hw
  have := Pc.rank_le_two (s.pc u)
  omega

section Moves

variable (env order)

theorem Sys.globalSection_leaves {p : Pc} {s' : Sys} (hp : p.waitsGlobal)
    (h : s.globalSection env order t p = some s') : (s'.pc t).waitsGlobal = false := by
  cases p <;> simp only [Pc.waitsGlobal] at hp <;> (try contradiction) <;>
    simp only [Sys.globalSection] at h <;> (repeat' split at h) <;>
    first
    | (cases h; simp [Sys.setPc, Pc.waitsGlobal])
    | (obtain ⟨_, _, rfl⟩ := Option.map_eq_some'.mp h; simp [Pc.waitsGlobal])
    | cases h

theorem Sys.lockGlobal_leaves (hw : (s.pc t).waitsGlobal) :
    ((s.lockGlobal env order t).pc t).waitsGlobal = false := by
  unfold Sys.lockGlobal
  split
  · exact Sys.globalSection_leaves env order hw ‹_›
  · simp [Sys.setPc, Pc.waitsGlobal]

theorem Pc.afterPrepare_waitsEntry {σ : Type} {obj : Nat} {b : Bool} {m : Nat}
    (r : EStateM.Result CurlException σ Unit) : (Pc.afterPrepare obj b m r).waitsEntry = none := by
  cases r <;> rfl

theorem Sys.lockEntry_leaves {m : Nat} (hw : (s.pc t).waitsEntry = some m) :
    ((s.lockEntry env t).pc t).waitsEntry = none := by
  unfold Sys.lockEntry
  split <;> (repeat' split) <;>
    first | simp [Pc.afterPrepare_waitsEntry]; done | simp_all [Sys.setPc, Pc.waitsEntry]

theorem Sys.performReturn_leaves (hr : s.transferReturns env t) :
    (s.performReturn t).pc t ≠ s.pc t := by
  unfold Sys.transferReturns at hr
  unfold Sys.performReturn
  split at hr
  · rename_i hp
    simp [hp, Sys.setPc]
  · cases hr

theorem Sys.unlockEntry_leaves (hr : (s.pc t).releases) :
    ((s.unlockEntry env t).pc t).releases = false := by
  unfold Sys.unlockEntry
  split <;> (repeat' split) <;> simp_all [Sys.setPc, Pc.releases]

theorem CanMove.step (h : CanMove env s t) : ∃ s', Step env order s s' ∧ s'.pc t ≠ s.pc t := by
  rcases h with ⟨hw, hfree⟩ | ⟨m, hw, hfree⟩ | hr | hret
  · refine ⟨_, .lockGlobal hw hfree, fun he => ?_⟩
    have := Sys.lockGlobal_leaves env order hw
    rw [he, hw] at this
    cases this
  · refine ⟨_, .lockEntry hw hfree, fun he => ?_⟩
    have := Sys.lockEntry_leaves env hw
    rw [he, hw] at this
    cases this
  · refine ⟨_, .unlockEntry hr, fun he => ?_⟩
    have := Sys.unlockEntry_leaves env hr
    rw [he, hr] at this
    cases this
  · exact ⟨_, .performReturn hret, Sys.performReturn_leaves env hret⟩

end Moves

/-- No thread inside a call of the registry (a constructor, a copy, an assignment, a `close`,
an `execute`, an `nconnections`) is stuck for good unless a transfer never returns: in every
state of every interleaving, in either evaluation order, the threads it waits for, each on a
lock the next one holds, end at a thread `u` that has a step now, which takes `u` to another
place in the code, or at a thread inside a `curl_easy_perform` that does not return. Under
`lhsFirst` that place may be a failed assertion. -/
theorem busy_threads_progress (h : Reachable env order s) (hb : (s.pc t).busy) :
    ∃ u, Relation.ReflTransGen (WaitsFor s) t u ∧
      ((∃ s', Step env order s s' ∧ s'.pc u ≠ s.pc u) ∨
        (s.pc u).inTransfer ∧ s.transferReturns env u = false) := by
  obtain ⟨u, hu, hm | hstuck⟩ := (Inv.reachable env h).exists_canMove env t hb
  · exact ⟨u, hu, .inl (hm.step env order)⟩
  · exact ⟨u, hu, .inr hstuck⟩

theorem busy_threads_progress_nestedRun :
    (nestedRun.pc 2).busy ∧ ∃ u, Relation.ReflTransGen (WaitsFor nestedRun) 2 u ∧
      ((∃ s', Step Env.accepting .rhsFirst nestedRun s' ∧ s'.pc u ≠ nestedRun.pc u) ∨
        (nestedRun.pc u).inTransfer ∧ nestedRun.transferReturns Env.accepting u = false) :=
  ⟨rfl, busy_threads_progress nestedRun_reachable rfl⟩

end CurlConnect

import CurlConnect.Shared.Tls

/-!
The invariant of the registry and its locks, over every reachable state of every
interleaving (`Inv`, `Inv.reachable`):

* `nconnections(id)`, the count of the entry of `id`, is the number of open front-ends
  bound to `id`;
* an entry has a connection, a mutex and a positive count, except the default entry a
  throwing constructor leaves when the left side of `contexts[context_id] = ...` is
  evaluated first;
* `contexts_mtx` is held by the one thread inside a constructor's nested section, an
  entry mutex by the one thread whose place in the code holds it;
* a thread between `_get_context` and the end of `execute` owns an open front-end whose
  entry is still the one it resolved, and a constructor holding `contexts_mtx` waits
  for or holds the mutex of the entry it found.

Each step keeps the invariant: a call, a critical section under `contexts_mtx`, and the
acquisition and release of an entry mutex. The count changes by the same amount on both
sides: `incr_ref` and `decr_ref` move the count of one id by one, and the front-ends
they count are appended, opened or closed in the same step.
-/

namespace CurlConnect

open SharedHTTPConnection

def SharedHTTPConnection.refs (fe : SharedHTTPConnection) (cid : Int) : Int :=
  if fe.boundTo cid then 1 else 0

section Counting

theorem openCount_append (objs : List Slot) (o : Slot) (cid : Int) :
    (openCount (objs ++ [o]) cid : Int) = openCount objs cid + o.fe.refs cid := by
  unfold openCount refs
  split <;> simp_all

theorem openCount_set {objs : List Slot} {i : Nat} {o : Slot} (h : objs[i]? = some o)
    (fe : SharedHTTPConnection) (cid : Int) :
    (openCount (objs.set i ⟨o.owner, fe⟩) cid : Int) =
      openCount objs cid - o.fe.refs cid + fe.refs cid := by
  induction objs generalizing i with
  | nil => cases h
  | cons a l ih =>
    cases i with
    | zero =>
      simp only [List.getElem?_cons_zero, Option.some.injEq] at h
      subst h
      simp only [openCount, List.set_cons_zero, List.countP_cons, refs]
      split <;> split <;> simp_all
    | succ k =>
      simp only [List.getElem?_cons_succ] at h
      have := ih h
      simp only [openCount, List.set_cons_succ, List.countP_cons] at this ⊢
      push_cast
      omega

theorem openCount_pos {objs : List Slot} {i : Nat} {o : Slot} (h : objs[i]? = some o)
    {cid : Int} (hb : o.fe.boundTo cid) : 0 < openCount objs cid :=
  List.countP_pos_iff.mpr ⟨o, List.getElem?_mem h, hb⟩

theorem two_le_openCount {objs : List Slot} {i j : Nat} {a b : Slot} (hij : i ≠ j)
    (ha : objs[i]? = some a) (hb : objs[j]? = some b) {cid : Int} (hai : a.fe.boundTo cid)
    (hbj : b.fe.boundTo cid) : 2 ≤ openCount objs cid := by
  have hset := openCount_set ha { a.fe with isOpen := false } cid
  have hj : (objs.set i ⟨a.owner, { a.fe with isOpen := false }⟩)[j]? = some b := by
    rw [List.getElem?_set_ne hij]; exact hb
  have hpos := openCount_pos hj hbj
  have h1 : a.fe.refs cid = 1 := by simp [refs, hai]
  have h0 : ({ a.fe with isOpen := false } : SharedHTTPConnection).refs cid = 0 := by
    simp [refs, boundTo]
  omega

theorem refs_of_isOpen {fe : SharedHTTPConnection} (h : fe.isOpen) (x : Int) :
    fe.refs x = if fe.id = x then 1 else 0 := by
  simp [refs, boundTo, h]

theorem refs_of_closed {fe : SharedHTTPConnection} (h : fe.isOpen = false) (x : Int) :
    fe.refs x = 0 := by
  simp [refs, boundTo, h]

theorem openCount_set_same {objs : List Slot} {i : Nat} {o : Slot} (h : objs[i]? = some o)
    (fe : SharedHTTPConnection) (hopen : fe.isOpen = o.fe.isOpen) (hid : fe.id = o.fe.id)
    (x : Int) : openCount (objs.set i ⟨o.owner, fe⟩) x = openCount objs x := by
  have := openCount_set h fe x
  have hr : fe.refs x = o.fe.refs x := by simp [refs, boundTo, hopen, hid]
  omega

theorem getElem?_append_of_some {l : List Slot} {j : Nat} {o : Slot} (h : l[j]? = some o)
    (l' : List Slot) : (l ++ l')[j]? = some o := by
  rw [List.getElem?_append_left (List.getElem?_eq_some_iff.mp h).1, h]

theorem getElem?_set_of_owner {l : List Slot} {i j : Nat} {a o : Slot} (ha : l[i]? = some a)
    (hj : l[j]? = some o) (howner : o.owner ≠ a.owner) (x : Slot) : (l.set i x)[j]? = some o := by
  have hij : i ≠ j := by rintro rfl; rw [ha] at hj; cases hj; exact howner rfl
  rw [List.getElem?_set_ne hij, hj]

end Counting

section RegistryOps

variable {c : Int → Option Context} {cid : Int} {ctx : Context}

theorem incrRef_eq (h : c cid = some ctx) (hconn : ctx.conn.isSome) :
    incrRef c cid = some (Function.update c cid (some { ctx with nref := ctx.nref + 1 })) := by
  unfold incrRef
  rw [h]
  cases hc : ctx.conn <;> simp_all

theorem decrRef_eq (h : c cid = some ctx) (hconn : ctx.conn.isSome) (hpos : 0 < ctx.nref) :
    decrRef c cid = some (if ctx.nref = 1 then Function.update c cid none
      else Function.update c cid (some { ctx with nref := ctx.nref - 1 })) := by
  obtain ⟨conn, hc⟩ := Option.isSome_iff_exists.mp hconn
  have hneg : ¬ (ctx.conn.isNone ∨ ctx.nref - 1 < 0) := by simp [hc]; omega
  unfold decrRef
  rw [h]
  simp only [hneg, if_false]
  by_cases h1 : ctx.nref = 1
  · rw [if_pos (by omega), if_pos h1]
  · rw [if_neg (by omega), if_neg h1]

theorem nconnections_update (c : Int → Option Context) (cid : Int) (v : Option Context)
    (x : Int) : nconnections (Function.update c cid v) x =
      if cid = x then (match v with | none => 0 | some ctx => ctx.nref)
      else nconnections c x := by
  unfold nconnections
  by_cases hx : cid = x
  · subst hx; cases v <;> simp
  · simp [Function.update_noteq (Ne.symm hx), hx]

theorem nconnections_update_nref (hc : c cid = some ctx) (ctx' : Context)
    (h : ctx'.nref = ctx.nref) :
    nconnections (Function.update c cid (some ctx')) = nconnections c := by
  funext x
  rw [nconnections_update]
  split_ifs with hx
  · subst hx; simp [nconnections, hc, h]
  · rfl

theorem incrRef_some {c c' : Int → Option Context} {cid : Int} (h : incrRef c cid = some c') :
    ∃ ctx, c cid = some ctx ∧ ctx.conn.isSome ∧
      c' = Function.update c cid (some { ctx with nref := ctx.nref + 1 }) := by
  cases hc : c cid with
  | none => simp [incrRef, hc] at h
  | some ctx =>
    have hconn : ctx.conn.isSome := by cases hx : ctx.conn <;> simp_all [incrRef]
    rw [incrRef_eq hc hconn, Option.some.injEq] at h
    exact ⟨ctx, rfl, hconn, h.symm⟩

theorem decrRef_some {c c' : Int → Option Context} {cid : Int} (h : decrRef c cid = some c') :
    ∃ ctx, c cid = some ctx ∧ ctx.conn.isSome ∧ 0 < ctx.nref ∧
      c' = if ctx.nref = 1 then Function.update c cid none
        else Function.update c cid (some { ctx with nref := ctx.nref - 1 }) := by
  cases hc : c cid with
  | none => simp [decrRef, hc] at h
  | some ctx =>
    have hconn : ctx.conn.isSome := by cases hx : ctx.conn <;> simp_all [decrRef]
    have hpos : 0 < ctx.nref := by
      by_contra hn
      simp [decrRef, hc, show ctx.nref - 1 < 0 by omega] at h
    rw [decrRef_eq hc hconn hpos, Option.some.injEq] at h
    exact ⟨ctx, rfl, hconn, hpos, h.symm⟩

theorem decrRef_ne {c c' : Int → Option Context} {cid x : Int} (h : decrRef c cid = some c')
    (hx : cid ≠ x) : c' x = c x := by
  obtain ⟨ctx, -, -, -, rfl⟩ := decrRef_some h
  split_ifs <;> exact Function.update_noteq (Ne.symm hx) _ _

theorem nconnections_of_incrRef {c c' : Int → Option Context} {cid : Int}
    (h : incrRef c cid = some c') (x : Int) :
    nconnections c' x = nconnections c x + if cid = x then 1 else 0 := by
  obtain ⟨ctx, hc, -, rfl⟩ := incrRef_some h
  rw [nconnections_update]
  split_ifs with hx
  · subst hx; simp [nconnections, hc]
  · simp

theorem nconnections_of_decrRef {c c' : Int → Option Context} {cid : Int}
    (h : decrRef c cid = some c') (x : Int) :
    nconnections c' x = nconnections c x - if cid = x then 1 else 0 := by
  obtain ⟨ctx, hc, -, -, rfl⟩ := decrRef_some h
  have hn : nconnections c cid = ctx.nref := by simp [nconnections, hc]
  split_ifs with h1 hx hx <;> rw [nconnections_update] <;> simp_all

theorem nconnections_of_assignRefs {c c' : Int → Option Context} {d o : SharedHTTPConnection}
    (h : Sys.assignRefs c d o = some c') (x : Int) :
    nconnections c' x = nconnections c x + o.refs x - d.refs x := by
  unfold Sys.assignRefs at h
  split_ifs at h with h1 h2 h3
  · rw [nconnections_of_incrRef h]
    by_cases hx : o.id = x <;> by_cases hy : d.id = x <;> simp_all [refs, boundTo]
  · rw [nconnections_of_decrRef h]
    by_cases hx : o.id = x <;> by_cases hy : d.id = x <;> simp_all [refs, boundTo]
  · obtain ⟨c₁, hd, hi⟩ := Option.bind_eq_some.mp h
    rw [nconnections_of_incrRef hi, nconnections_of_decrRef hd]
    have ho : o.isOpen = true := by rw [← h3.2]; exact (not_not.mp h1).symm
    simp only [refs, boundTo, h3.2, ho, Bool.true_and, beq_iff_eq]
    split_ifs <;> omega
  · cases h
    have hsame : d.isOpen = o.isOpen := not_not.mp h1
    have hrefs : o.refs x = d.refs x := by
      by_cases hd : d.isOpen
      · have hid : d.id = o.id := by by_contra hne; exact h3 ⟨hne, hd⟩
        simp [refs, boundTo, hid, ← hsame]
      · simp [refs, boundTo, hd, ← hsame]
    omega

/-- An entry the registry can hold: one with a connection, which verifies peer and host
whenever it is on `https`, a positive count and a mutex, or, when the left side of
`contexts[context_id] = ...` is evaluated first, the default entry a throwing constructor
leaves. -/
def EntryShape (order : EvalOrder) (ctx : Context) : Prop :=
  (ctx.conn.isSome ∧ 0 < ctx.nref ∧ 0 < ctx.mtx ∧
      ∀ conn, ctx.conn = some conn → conn.TlsOk) ∨
    (order = .lhsFirst ∧ ctx.conn = none ∧ ctx.nref = 0 ∧ ctx.mtx = 0)

theorem EntryShape.pos_of_isSome {order : EvalOrder} {ctx : Context} (h : EntryShape order ctx)
    (hc : ctx.conn.isSome) : 0 < ctx.nref ∧ 0 < ctx.mtx := by
  rcases h with ⟨-, hn, hm, -⟩ | ⟨-, h, -⟩
  · exact ⟨hn, hm⟩
  · simp [h] at hc

theorem EntryShape.tlsOk {order : EvalOrder} {ctx : Context} (h : EntryShape order ctx) :
    ∀ conn, ctx.conn = some conn → conn.TlsOk := by
  rcases h with ⟨-, -, -, h⟩ | ⟨-, h, -⟩
  · exact h
  · intro conn hc; rw [h] at hc; cases hc

theorem EntryShape.isSome_of_pos {order : EvalOrder} {ctx : Context} (h : EntryShape order ctx)
    (hn : 0 < ctx.nref) : ctx.conn.isSome := by
  rcases h with ⟨h, -⟩ | ⟨-, -, h, -⟩
  · exact h
  · omega

theorem EntryShape.lhsFirst_of_not_pos {order : EvalOrder} {ctx : Context}
    (h : EntryShape order ctx) (hn : ¬ 0 < ctx.nref) : order = .lhsFirst := by
  rcases h with ⟨-, h, -⟩ | ⟨h, -⟩
  · exact absurd h hn
  · exact h

theorem EntryShape.of_isSome {order : EvalOrder} {ctx : Context} (h : EntryShape order ctx)
    (hc : ctx.conn.isSome) {ctx' : Context} (hc' : ctx'.conn.isSome) (hn : ctx.nref ≤ ctx'.nref)
    (hm : ctx'.mtx = ctx.mtx) (htls : ∀ conn, ctx'.conn = some conn → conn.TlsOk) :
    EntryShape order ctx' := by
  obtain ⟨hpos, hmtx⟩ := h.pos_of_isSome hc
  exact .inl ⟨hc', by omega, hm ▸ hmtx, htls⟩

/-- Every entry of the registry has a shape the code can leave. -/
def ShapesOk (order : EvalOrder) (c : Int → Option Context) : Prop :=
  ∀ cid ctx, c cid = some ctx → EntryShape order ctx

theorem ShapesOk.update {order : EvalOrder} {c : Int → Option Context} (h : ShapesOk order c)
    (cid : Int) {v : Option Context} (hv : ∀ ctx, v = some ctx → EntryShape order ctx) :
    ShapesOk order (Function.update c cid v) := by
  intro x ctx hx
  by_cases hxc : x = cid
  · subst hxc; simp at hx; exact hv ctx hx
  · rw [Function.update_noteq hxc] at hx; exact h x ctx hx

theorem ShapesOk.incrRef {order : EvalOrder} {c c' : Int → Option Context} {cid : Int}
    (hs : ShapesOk order c) (h : incrRef c cid = some c') : ShapesOk order c' := by
  obtain ⟨ctx, hc, hconn, rfl⟩ := incrRef_some h
  exact hs.update cid fun _ hv => by
    cases hv
    exact (hs cid ctx hc).of_isSome hconn hconn (by simp only; omega) rfl (hs cid ctx hc).tlsOk

theorem ShapesOk.decrRef {order : EvalOrder} {c c' : Int → Option Context} {cid : Int}
    (hs : ShapesOk order c) (h : decrRef c cid = some c') : ShapesOk order c' := by
  obtain ⟨ctx, hc, hconn, hpos, rfl⟩ := decrRef_some h
  split_ifs with h1
  · exact hs.update cid fun _ hv => nomatch hv
  · refine hs.update cid fun _ hv => ?_
    cases hv
    obtain ⟨-, hm⟩ := (hs cid ctx hc).pos_of_isSome hconn
    exact .inl ⟨hconn, by simp; omega, hm, (hs cid ctx hc).tlsOk⟩

theorem ShapesOk.assignRefs {order : EvalOrder} {c c' : Int → Option Context}
    {d o : SharedHTTPConnection} (hs : ShapesOk order c) (h : Sys.assignRefs c d o = some c') :
    ShapesOk order c' := by
  unfold Sys.assignRefs at h
  split_ifs at h
  · exact hs.incrRef h
  · exact hs.decrRef h
  · obtain ⟨c₁, hd, hi⟩ := Option.bind_eq_some.mp h
    exact (hs.decrRef hd).incrRef hi
  · cases h; exact hs

/-- Every entry of `c` at an id `keep` selects is still there in `c'`, with its mutex
and its connection. -/
def EntriesKept (keep : Int → Prop) (c c' : Int → Option Context) : Prop :=
  ∀ cid ctx, keep cid → c cid = some ctx →
    ∃ ctx', c' cid = some ctx' ∧ ctx'.mtx = ctx.mtx ∧ ctx'.conn.isSome = ctx.conn.isSome

theorem EntriesKept.trans {keep : Int → Prop} {c₁ c₂ c₃ : Int → Option Context}
    (h₁ : EntriesKept keep c₁ c₂) (h₂ : EntriesKept (fun _ => True) c₂ c₃) :
    EntriesKept keep c₁ c₃ := by
  intro x ctx hk hx
  obtain ⟨ctx₂, hx₂, hm₂, hc₂⟩ := h₁ x ctx hk hx
  obtain ⟨ctx₃, hx₃, hm₃, hc₃⟩ := h₂ x ctx₂ trivial hx₂
  exact ⟨ctx₃, hx₃, hm₃.trans hm₂, hc₃.trans hc₂⟩

theorem entriesKept_update {c : Int → Option Context} {cid : Int} {ctx : Context}
    (hc : c cid = some ctx) (ctx' : Context) (hm : ctx'.mtx = ctx.mtx)
    (hconn : ctx'.conn.isSome = ctx.conn.isSome) :
    EntriesKept (fun _ => True) c (Function.update c cid (some ctx')) := by
  intro x e _ hx
  by_cases hxc : x = cid
  · subst hxc; rw [hc] at hx; cases hx; exact ⟨ctx', by simp, hm, hconn⟩
  · exact ⟨e, by rw [Function.update_noteq hxc, hx], rfl, rfl⟩

theorem entriesKept_insert {c : Int → Option Context} {cid : Int} (hc : c cid = none)
    (v : Option Context) : EntriesKept (fun _ => True) c (Function.update c cid v) := by
  intro x e _ hx
  by_cases hxc : x = cid
  · subst hxc; rw [hc] at hx; cases hx
  · exact ⟨e, by rw [Function.update_noteq hxc, hx], rfl, rfl⟩

theorem entriesKept_of_incrRef {c c' : Int → Option Context} {cid : Int}
    (h : incrRef c cid = some c') : EntriesKept (fun _ => True) c c' := by
  obtain ⟨ctx, hc, -, rfl⟩ := incrRef_some h
  exact entriesKept_update hc _ rfl rfl

theorem EntriesKept.mono {keep keep' : Int → Prop} {c c' : Int → Option Context}
    (h : EntriesKept keep c c') (hk : ∀ x, keep' x → keep x) : EntriesKept keep' c c' :=
  fun x ctx hx hc => h x ctx (hk x hx) hc

theorem EntriesKept.rfl {keep : Int → Prop} {c : Int → Option Context} : EntriesKept keep c c :=
  fun _ ctx _ hc => ⟨ctx, hc, Eq.refl _, Eq.refl _⟩

theorem entriesKept_of_decrRef {c c' : Int → Option Context} {cid : Int}
    (h : decrRef c cid = some c') :
    EntriesKept (fun x => cid = x → 2 ≤ nconnections c x) c c' := by
  obtain ⟨ctx, hc, -, -, rfl⟩ := decrRef_some h
  intro x e hk hx
  split_ifs with h1
  · by_cases hxc : cid = x
    · subst hxc
      have := hk rfl
      simp only [nconnections, hc] at this
      omega
    · exact ⟨e, by rw [Function.update_noteq (Ne.symm hxc), hx], Eq.refl _, Eq.refl _⟩
  · exact entriesKept_update hc { ctx with nref := ctx.nref - 1 } (Eq.refl _) (Eq.refl _) x e
      trivial hx

theorem boundTo_of_isOpen {fe : SharedHTTPConnection} (h : fe.isOpen) (x : Int) :
    fe.boundTo x = true ↔ fe.id = x := by
  simp [boundTo, h]

theorem entriesKept_of_assignRefs {c c' : Int → Option Context} {d o : SharedHTTPConnection}
    (h : Sys.assignRefs c d o = some c') :
    EntriesKept (fun x => d.boundTo x → 2 ≤ nconnections c x) c c' := by
  unfold Sys.assignRefs at h
  split_ifs at h with h1 h2 h3
  · exact (entriesKept_of_incrRef h).mono fun _ _ => trivial
  · have hd : d.isOpen = true := by simpa [h2] using h1
    exact (entriesKept_of_decrRef h).mono fun x hk hx => hk ((boundTo_of_isOpen hd x).mpr hx)
  · obtain ⟨c₁, hd, hi⟩ := Option.bind_eq_some.mp h
    exact ((entriesKept_of_decrRef hd).mono fun x hk hx =>
      hk ((boundTo_of_isOpen h3.2 x).mpr hx)).trans (entriesKept_of_incrRef hi)
  · cases h
    exact EntriesKept.rfl

end RegistryOps

/-- A URL a front-end can hold: empty, or one the protocol test of `HTTPConnection::set_url`
accepts. -/
def UrlOk (url : List Char) : Prop := url = [] ∨ httpProtocolOk url = true

/-- What a thread at `p` in the code says about the state: a constructor that holds
`contexts_mtx` found the entry whose mutex it waits for or holds; a thread inside a call
owns the front-ends it names, open where the call needs them; between `_get_context` and
the end of `execute`, the entry of the front-end is the one resolved; an assertion fails
only when the left side of `contexts[context_id] = ...` goes first. -/
def PcAt (order : EvalOrder) (s : Sys) (t : Nat) : Pc → Prop
  | .ctorEntry _ _ cid m | .ctorHold _ _ cid m =>
      ∃ ctx, s.contexts cid = some ctx ∧ ctx.mtx = m ∧ ctx.conn.isSome
  | .copyWait obj | .closeWait obj | .resolveWait obj _ =>
      ∃ o, s.objs[obj]? = some o ∧ o.owner = t ∧ o.fe.isOpen
  | .assignWait dst src =>
      (∃ o, s.objs[dst]? = some o ∧ o.owner = t) ∧
        ∃ o, s.objs[src]? = some o ∧ o.owner = t
  | .execWait obj _ m | .execPerform obj _ m | .execHold obj m =>
      ∃ o ctx, s.objs[obj]? = some o ∧ o.owner = t ∧ o.fe.isOpen ∧
        s.contexts o.fe.id = some ctx ∧ ctx.mtx = m ∧ ctx.conn.isSome
  | .aborted => order = .lhsFirst
  | .idle | .ctorWait .. | .countWait _ => True

theorem PcAt.afterPrepare {order : EvalOrder} {s : Sys} {t obj : Nat} {b : Bool} {m : Nat}
    {σ : Type} (r : EStateM.Result CurlException σ Unit) (h : PcAt order s t (.execHold obj m)) :
    PcAt order s t (Pc.afterPrepare obj b m r) := by
  cases r <;> exact h

def PcOk (order : EvalOrder) (s : Sys) (t : Nat) : Prop := PcAt order s t (s.pc t)

theorem PcOk.of_pc {order : EvalOrder} {s : Sys} {t : Nat} {p : Pc} (hp : s.pc t = p)
    (h : PcAt order s t p) : PcOk order s t := by
  unfold PcOk; rw [hp]; exact h

/-- The invariant of the registry and its locks. -/
structure Inv (order : EvalOrder) (s : Sys) : Prop where
  count : ∀ cid, nconnections s.contexts cid = openCount s.objs cid
  shapes : ShapesOk order s.contexts
  nextMtx_pos : 0 < s.nextMtx
  urls : ∀ o ∈ s.objs, UrlOk o.fe.url
  pcOk : ∀ t, PcOk order s t
  global : ∀ t, s.global = some t ↔ (s.pc t).holdsGlobal = true
  mutex : ∀ t m, s.mutexes m = some t ↔ (s.pc t).holdsEntry = some m

theorem Inv.init (order : EvalOrder) : Inv order Sys.init where
  count _ := rfl
  shapes _ _ h := nomatch h
  nextMtx_pos := Nat.one_pos
  urls _ h := nomatch h
  pcOk _ := trivial
  global _ := by simp [Sys.init, Pc.holdsGlobal]
  mutex _ _ := by simp [Sys.init, Pc.holdsEntry]

variable {order : EvalOrder} {s : Sys} {t : Nat}

theorem Inv.pcAt (hinv : Inv order s) {p : Pc} (hp : s.pc t = p) : PcAt order s t p :=
  hp ▸ hinv.pcOk t

/-- An open front-end's entry exists, has a connection and a mutex, and counts it. -/
theorem Inv.entry_of_bound (hinv : Inv order s) {i : Nat} {o : Slot} (h : s.objs[i]? = some o)
    {cid : Int} (hb : o.fe.boundTo cid) :
    ∃ ctx, s.contexts cid = some ctx ∧ ctx.conn.isSome ∧ 0 < ctx.mtx ∧
      ctx.nref = openCount s.objs cid := by
  have hpos := openCount_pos h hb
  have hc := hinv.count cid
  cases hx : s.contexts cid with
  | none => simp [nconnections, hx] at hc; omega
  | some ctx =>
    simp only [nconnections, hx] at hc
    have hconn := (hinv.shapes cid ctx hx).isSome_of_pos (by omega)
    exact ⟨ctx, rfl, hconn, ((hinv.shapes cid ctx hx).pos_of_isSome hconn).2, hc⟩

theorem boundTo_id {fe : SharedHTTPConnection} (h : fe.isOpen) : fe.boundTo fe.id := by
  simp [SharedHTTPConnection.boundTo, h]

theorem Inv.incrRef_isSome (hinv : Inv order s) {i : Nat} {o : Slot} (h : s.objs[i]? = some o)
    (hopen : o.fe.isOpen) (c : Int → Option Context) (hc : c o.fe.id = s.contexts o.fe.id) :
    ∃ r, incrRef c o.fe.id = some r := by
  obtain ⟨ctx, hx, hconn, -, -⟩ := hinv.entry_of_bound h (boundTo_id hopen)
  exact ⟨_, incrRef_eq (hc.trans hx) hconn⟩

theorem Inv.decrRef_isSome (hinv : Inv order s) {i : Nat} {o : Slot} (h : s.objs[i]? = some o)
    (hopen : o.fe.isOpen) : ∃ r, decrRef s.contexts o.fe.id = some r := by
  obtain ⟨ctx, hx, hconn, -, hn⟩ := hinv.entry_of_bound h (boundTo_id hopen)
  have hpos : 0 < ctx.nref := by rw [hn]; exact_mod_cast openCount_pos h (boundTo_id hopen)
  exact ⟨_, decrRef_eq hx hconn hpos⟩

/-- The entries thread `u` relies on: those of its open front-ends, and all of them
while it holds `contexts_mtx`. -/
def Relies (s : Sys) (u : Nat) (cid : Int) : Prop :=
  (∃ (j : Nat) (o : Slot), s.objs[j]? = some o ∧ o.owner = u ∧ o.fe.boundTo cid) ∨
    (s.pc u).holdsGlobal = true

/-- While no thread holds `contexts_mtx`, an entry another thread relies on and a front-end of
`t` is bound to counts at least two front-ends. -/
theorem Inv.two_le_of_relies (hinv : Inv order s) (hfree : s.global = none) {u : Nat}
    (hu : u ≠ t) {x : Int} (hrel : Relies s u x) {i : Nat} {o : Slot} (ho : s.objs[i]? = some o)
    (hown : o.owner = t) (hb : o.fe.boundTo x) : 2 ≤ nconnections s.contexts x := by
  rcases hrel with ⟨j, o', hj, hown', hb'⟩ | hg
  · have hij : i ≠ j := by
      rintro rfl; rw [ho] at hj; cases hj; exact hu (hown'.symm.trans hown)
    rw [hinv.count]
    exact_mod_cast two_le_openCount hij ho hj hb hb'
  · rw [← hinv.global, hfree] at hg
    cases hg

/-- A step of another thread that leaves the place of `u`, its front-ends and the
entries it relies on keeps what that place says. -/
theorem PcOk.frame {s s' : Sys} {u : Nat} (h : PcOk order s u) (hpc : s'.pc u = s.pc u)
    (hobjs : ∀ (j : Nat) (o : Slot), s.objs[j]? = some o → o.owner = u → s'.objs[j]? = some o)
    (hctx : EntriesKept (Relies s u) s.contexts s'.contexts) : PcOk order s' u := by
  unfold PcOk at h ⊢
  rw [hpc]
  cases hp : s.pc u <;> simp only [hp, PcAt] at h ⊢
  case ctorEntry | ctorHold =>
    obtain ⟨ctx, hx, hm, hc⟩ := h
    obtain ⟨ctx', hx', hm', hc'⟩ := hctx _ ctx (Or.inr (by simp [hp, Pc.holdsGlobal])) hx
    exact ⟨ctx', hx', hm'.trans hm, hc'.trans hc⟩
  case copyWait | closeWait | resolveWait =>
    obtain ⟨o, ho, hown, hopen⟩ := h
    exact ⟨o, hobjs _ o ho hown, hown, hopen⟩
  case assignWait =>
    obtain ⟨⟨o₁, h₁, hw₁⟩, ⟨o₂, h₂, hw₂⟩⟩ := h
    exact ⟨⟨o₁, hobjs _ _ h₁ hw₁, hw₁⟩, ⟨o₂, hobjs _ _ h₂ hw₂, hw₂⟩⟩
  case execWait | execPerform | execHold =>
    obtain ⟨o, ctx, ho, hown, hopen, hx, hm, hc⟩ := h
    obtain ⟨ctx', hx', hm', hc'⟩ :=
      hctx _ ctx (Or.inl ⟨_, o, ho, hown, boundTo_id hopen⟩) hx
    exact ⟨o, ctx', hobjs _ o ho hown, hown, hopen, hx', hm'.trans hm, hc'.trans hc⟩
  all_goals exact h

/-- A step of thread `t` as the other threads see it: their places, their front-ends and
the locks they hold stay, and so do the entries they rely on. -/
structure Frame (s s' : Sys) (t : Nat) : Prop where
  pc : ∀ u, u ≠ t → s'.pc u = s.pc u
  objs : ∀ (j : Nat) (o : Slot), s.objs[j]? = some o → o.owner ≠ t → s'.objs[j]? = some o
  entries : ∀ u, u ≠ t → EntriesKept (Relies s u) s.contexts s'.contexts
  global : ∀ u, u ≠ t → (s'.global = some u ↔ s.global = some u)
  mutexes : ∀ u, u ≠ t → ∀ m, (s'.mutexes m = some u ↔ s.mutexes m = some u)

/-- A step of thread `t` keeps the invariant when it leaves the other threads alone, keeps
the counts, the shapes and the URLs, and leaves `t` at a place that agrees with the locks
and the registry. -/
theorem Inv.of_frame {s' : Sys} (hinv : Inv order s) (hf : Frame s s' t)
    (hcount : ∀ cid, nconnections s'.contexts cid = openCount s'.objs cid)
    (hshapes : ShapesOk order s'.contexts) (hnext : 0 < s'.nextMtx)
    (hurls : ∀ o ∈ s'.objs, UrlOk o.fe.url)
    (hglobal : s'.global = some t ↔ (s'.pc t).holdsGlobal = true)
    (hmutex : ∀ m, s'.mutexes m = some t ↔ (s'.pc t).holdsEntry = some m)
    (ht : PcOk order s' t) : Inv order s' where
  count := hcount
  shapes := hshapes
  nextMtx_pos := hnext
  urls := hurls
  pcOk u := by
    by_cases hu : u = t
    · exact hu ▸ ht
    · exact (hinv.pcOk u).frame (hf.pc u hu) (fun j o h hown => hf.objs j o h (hown ▸ hu))
        (hf.entries u hu)
  global u := by
    by_cases hu : u = t
    · exact hu ▸ hglobal
    · rw [hf.global u hu, hinv.global u, hf.pc u hu]
  mutex u m := by
    by_cases hu : u = t
    · exact hu ▸ hmutex m
    · rw [hf.mutexes u hu, hinv.mutex u m, hf.pc u hu]

section Locks

variable {m : Nat}

theorem global_acquire (hfree : s.global = none) (u : Nat) (hu : u ≠ t) :
    some t = some u ↔ s.global = some u := by
  simp [hfree, Ne.symm hu]

theorem Inv.global_release (hinv : Inv order s) (hg : (s.pc t).holdsGlobal) (u : Nat)
    (hu : u ≠ t) :
    none = some u ↔ s.global = some u := by
  rw [(hinv.global t).mpr hg]; simp [Ne.symm hu]

theorem mutexes_acquire (hfree : s.mutexes m = none) (u : Nat) (hu : u ≠ t) (m' : Nat) :
    Function.update s.mutexes m (some t) m' = some u ↔ s.mutexes m' = some u := by
  by_cases hm : m' = m
  · subst hm; simp [hfree, Ne.symm hu]
  · rw [Function.update_noteq hm]

theorem Inv.mutexes_acquire_self (hinv : Inv order s) (hnone : (s.pc t).holdsEntry = none)
    {p : Pc} (hp : p.holdsEntry = some m) (m' : Nat) :
    Function.update s.mutexes m (some t) m' = some t ↔
      (Function.update s.pc t p t).holdsEntry = some m' := by
  rw [Function.update_same, hp]
  by_cases hm : m' = m
  · subst hm; simp
  · rw [Function.update_noteq hm, hinv.mutex, hnone]; simp [Ne.symm hm]

theorem Inv.mutexes_release (hinv : Inv order s) (hm : (s.pc t).holdsEntry = some m) (u : Nat)
    (hu : u ≠ t) (m' : Nat) :
    Function.update s.mutexes m none m' = some u ↔ s.mutexes m' = some u := by
  by_cases hmm : m' = m
  · subst hmm; rw [(hinv.mutex t m').mpr hm]; simp [Ne.symm hu]
  · rw [Function.update_noteq hmm]

theorem Inv.mutexes_release_self (hinv : Inv order s) (hm : (s.pc t).holdsEntry = some m)
    {p : Pc} (hp : p.holdsEntry = none) (m' : Nat) :
    Function.update s.mutexes m none m' = some t ↔
      (Function.update s.pc t p t).holdsEntry = some m' := by
  rw [Function.update_same, hp]
  by_cases hmm : m' = m
  · subst hmm; simp
  · rw [Function.update_noteq hmm, hinv.mutex, hm]; simp [Ne.symm hmm]

theorem Inv.global_move (hinv : Inv order s) {p : Pc} (hg : p.holdsGlobal = (s.pc t).holdsGlobal) :
    s.global = some t ↔ (Function.update s.pc t p t).holdsGlobal = true := by
  rw [Function.update_same, hg]
  exact hinv.global t

end Locks

theorem Pc.holdsEntry_of_waitsGlobal {p : Pc} (h : p.waitsGlobal) : p.holdsEntry = none := by
  cases p <;> simp_all [Pc.waitsGlobal, Pc.holdsEntry]

theorem Inv.urls_append (hinv : Inv order s) (u : Nat) (fe : SharedHTTPConnection)
    (h : UrlOk fe.url) : ∀ o ∈ s.objs ++ [⟨u, fe⟩], UrlOk o.fe.url := by
  intro o ho
  rcases List.mem_append.mp ho with ho | ho
  · exact hinv.urls o ho
  · rw [List.mem_singleton.mp ho]; exact h

theorem Inv.urls_set (hinv : Inv order s) (i u : Nat) (fe : SharedHTTPConnection)
    (h : UrlOk fe.url) : ∀ o ∈ s.objs.set i ⟨u, fe⟩, UrlOk o.fe.url := by
  intro o ho
  rcases List.mem_or_eq_of_mem_set ho with ho | rfl
  · exact hinv.urls o ho
  · exact h

theorem Inv.setPc (hinv : Inv order s) {p : Pc} (hg : p.holdsGlobal = (s.pc t).holdsGlobal)
    (he : p.holdsEntry = (s.pc t).holdsEntry) (ht : PcAt order s t p) :
    Inv order (s.setPc t p) :=
  hinv.of_frame ⟨fun _ hu => Function.update_noteq hu _ _, fun _ _ h _ => h,
      fun _ _ => .rfl, fun _ _ => Iff.rfl, fun _ _ _ => Iff.rfl⟩
    hinv.count hinv.shapes hinv.nextMtx_pos hinv.urls
    (hinv.global_move hg)
    (fun m => by simp only [Sys.setPc, Function.update_same, he]; exact hinv.mutex t m)
    (.of_pc (Function.update_same _ _ _) ht)

theorem Inv.ownObjs (hinv : Inv order s) (hidle : s.pc t = .idle) {objs : List Slot}
    (hcount : ∀ x, openCount objs x = openCount s.objs x) (hurls : ∀ o ∈ objs, UrlOk o.fe.url)
    (hobjs : ∀ (j : Nat) (o : Slot), s.objs[j]? = some o → o.owner ≠ t →
      objs[j]? = some o) :
    Inv order { s with objs := objs } :=
  hinv.of_frame
    ⟨fun _ _ => rfl, hobjs, fun _ _ => .rfl, fun _ _ => Iff.rfl, fun _ _ _ => Iff.rfl⟩
    (fun x => by rw [hcount]; exact hinv.count x) hinv.shapes hinv.nextMtx_pos hurls
    (hinv.global t) (hinv.mutex t) (.of_pc hidle trivial)

/-- A critical section under `contexts_mtx` that ends with the thread idle and keeps the
counts, the shapes, the URLs, and the front-ends and the entries of the other threads. -/
theorem Inv.underGlobal (hinv : Inv order s) (hwait : (s.pc t).waitsGlobal)
    (hfree : s.global = none) {c : Int → Option Context} {objs : List Slot} {n : Nat}
    (hcount : ∀ cid, nconnections c cid = openCount objs cid) (hshapes : ShapesOk order c)
    (hn : s.nextMtx ≤ n) (hurls : ∀ o ∈ objs, UrlOk o.fe.url)
    (hobjs : ∀ (j : Nat) (o : Slot), s.objs[j]? = some o → o.owner ≠ t → objs[j]? = some o)
    (hctx : ∀ u, u ≠ t → EntriesKept (Relies s u) s.contexts c) :
    Inv order { s with contexts := c, objs := objs, nextMtx := n,
                       pc := Function.update s.pc t .idle } :=
  hinv.of_frame ⟨fun _ hu => Function.update_noteq hu _ _, hobjs, hctx, fun _ _ => Iff.rfl,
      fun _ _ _ => Iff.rfl⟩ hcount hshapes (lt_of_lt_of_le hinv.nextMtx_pos hn) hurls
    (by simp [hfree, Pc.holdsGlobal])
    (fun m => by
      simp only [Function.update_same]
      rw [hinv.mutex, Pc.holdsEntry_of_waitsGlobal hwait]
      simp [Pc.holdsEntry])
    (.of_pc (Function.update_same _ _ _) trivial)

end CurlConnect

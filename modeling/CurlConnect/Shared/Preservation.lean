import CurlConnect.Shared.Invariant

/-!
Every step of every thread keeps `Inv`, so every state of every interleaving satisfies it
(`Inv.reachable`). There is one lemma per critical section of the source: the calls before
the first lock, the sections under `contexts_mtx` (the constructor, the copy constructor,
`operator=`, `close`, `_get_context`, `nconnections`), and the sections under an entry
mutex (the constructor's reconfiguration and the body of `execute`).

Each lemma reads the section's effect off the model once and hands the pieces to
`Inv.of_frame`, `Inv.underGlobal`, `Inv.setPc` or `Inv.ownObjs`. Where the source
asserts, the invariant gives what the assertion needs, so under `rhsFirst` no thread
reaches `aborted`.
-/

namespace CurlConnect

open SharedHTTPConnection

variable (env : Env) {order : EvalOrder} {s : Sys} {t : Nat}

theorem newConnection_urlOk {url : List Char} {meth : HttpMethod} {conn : HTTPConnection}
    (h : newConnection env url meth = .ok conn) : UrlOk url := by
  unfold newConnection at h
  split_ifs at h with he
  · exact .inl (List.isEmpty_iff.mp he)
  · exact .inr (HTTPConnection.new_protocolOk env h)

theorem reconfigure_urlOk {url : List Char} {meth : HttpMethod} {conn conn' : HTTPConnection}
    {u : Unit} (h : reconfigure env url meth conn = .ok u conn') : UrlOk url := by
  unfold reconfigure at h
  rw [Cpp.bind_apply] at h
  split at h
  · split_ifs at h with he
    · exact .inl (List.isEmpty_iff.mp he)
    · exact .inr (HTTPConnection.setUrl_protocolOk env h)
  · cases h

theorem setUrl_state (url : List Char) (fe : SharedHTTPConnection) :
    Cpp.stateOf (SharedHTTPConnection.setUrl url fe) =
      if matchPrefix protoRx url then { fe with url := url } else fe := by
  unfold SharedHTTPConnection.setUrl
  split <;> rfl

theorem Sys.setObj_of_getElem? {i : Nat} {o : Slot} (h : s.objs[i]? = some o)
    (fe : SharedHTTPConnection) :
    s.setObj i fe = { s with objs := s.objs.set i ⟨o.owner, fe⟩ } := by
  simp [Sys.setObj, h]

theorem Inv.setOwn (hinv : Inv order s) (hidle : s.pc t = .idle) {i : Nat} {o : Slot}
    (ho : s.objs[i]? = some o) (hown : o.owner = t) {fe : SharedHTTPConnection}
    (hopen : fe.isOpen = o.fe.isOpen) (hid : fe.id = o.fe.id) (hurl : UrlOk fe.url) :
    Inv order (s.setObj i fe) := by
  rw [Sys.setObj_of_getElem? ho]
  exact hinv.ownObjs hidle (openCount_set_same ho fe hopen hid) (hinv.urls_set i o.owner fe hurl)
    fun j o' hj hne => getElem?_set_of_owner ho hj (hown ▸ hne) _

theorem Inv.call (hinv : Inv order s) (op : Op) (hidle : s.pc t = .idle) (hown : s.Owns t op) :
    Inv order (s.call t op) := by
  have hmove : ∀ p : Pc, p.holdsGlobal = false → p.holdsEntry = none → PcAt order s t p →
      Inv order (s.setPc t p) := fun p hg he ht =>
    hinv.setPc (by rw [hidle, hg]; rfl) (by rw [hidle, he]; rfl) ht
  cases op with
  | construct url meth cid => exact hmove _ rfl rfl trivial
  | copy src =>
    obtain ⟨o, ho, howner⟩ := hown src (by simp [Op.objects])
    simp only [Sys.call, ho]
    split_ifs with hopen
    · exact hmove _ rfl rfl ⟨o, ho, howner, hopen⟩
    · refine hinv.ownObjs hidle (fun x => ?_)
        (hinv.urls_append t o.fe (hinv.urls o (List.getElem?_mem ho)))
        fun j o' hj _ => getElem?_append_of_some hj _
      have := openCount_append s.objs ⟨t, o.fe⟩ x
      rw [refs_of_closed (by simpa using hopen)] at this
      omega
  | assign dst src =>
    obtain ⟨d, hd, hownd⟩ := hown dst (by simp [Op.objects])
    obtain ⟨o, ho, howno⟩ := hown src (by simp [Op.objects])
    simp only [Sys.call, hd, ho]
    split_ifs
    · exact hinv
    · exact hmove _ rfl rfl ⟨⟨d, hd, hownd⟩, ⟨o, ho, howno⟩⟩
  | close obj =>
    obtain ⟨o, ho, howner⟩ := hown obj (by simp [Op.objects])
    simp only [Sys.call, ho]
    split_ifs with hopen
    · exact hmove _ rfl rfl ⟨o, ho, howner, hopen⟩
    · exact hinv
  | execute obj b =>
    obtain ⟨o, ho, howner⟩ := hown obj (by simp [Op.objects])
    simp only [Sys.call, ho]
    split_ifs with hopen
    · exact hmove _ rfl rfl ⟨o, ho, howner, hopen⟩
    · exact hinv
  | nconnections cid => exact hmove _ rfl rfl trivial
  | setUrl obj url =>
    obtain ⟨o, ho, howner⟩ := hown obj (by simp [Op.objects])
    simp only [Sys.call, ho, setUrl_state]
    split_ifs with hm
    · exact hinv.setOwn hidle ho howner rfl rfl (.inr (httpProtocolOk_eq_matchPrefix url ▸ hm))
    · exact hinv.setOwn hidle ho howner rfl rfl (hinv.urls o (List.getElem?_mem ho))
  | setPending obj meth headers fields timeout =>
    obtain ⟨o, ho, howner⟩ := hown obj (by simp [Op.objects])
    simp only [Sys.call, ho]
    exact hinv.setOwn hidle ho howner rfl rfl (hinv.urls o (List.getElem?_mem ho))

theorem Inv.copy (hinv : Inv order s) {src : Nat} (hp : s.pc t = .copyWait src)
    (hfree : s.global = none) : Inv order (s.lockGlobal env order t) := by
  obtain ⟨o, ho, hown, hopen⟩ := hinv.pcAt hp
  obtain ⟨r, hr⟩ := hinv.incrRef_isSome ho hopen _ rfl
  simp only [Sys.lockGlobal, Sys.globalSection, hp, ho, hr, Option.map_some']
  refine hinv.underGlobal (by rw [hp]; rfl) hfree (fun x => ?_) (hinv.shapes.incrRef hr) le_rfl
    (hinv.urls_append t o.fe (hinv.urls o (List.getElem?_mem ho)))
    (fun j o' hj _ => getElem?_append_of_some hj _)
    fun _ _ => (entriesKept_of_incrRef hr).mono fun _ _ => trivial
  rw [nconnections_of_incrRef hr, hinv.count]
  simp [Sys.addObj, openCount_append, refs_of_isOpen hopen]

theorem Inv.close (hinv : Inv order s) {obj : Nat} (hp : s.pc t = .closeWait obj)
    (hfree : s.global = none) : Inv order (s.lockGlobal env order t) := by
  obtain ⟨o, ho, hown, hopen⟩ := hinv.pcAt hp
  obtain ⟨r, hr⟩ := hinv.decrRef_isSome ho hopen
  simp only [Sys.lockGlobal, Sys.globalSection, hp, ho, hr, Option.map_some',
    Sys.setObj_of_getElem? ho]
  refine hinv.underGlobal (by rw [hp]; rfl) hfree (fun x => ?_) (hinv.shapes.decrRef hr) le_rfl
    (hinv.urls_set obj o.owner _ (hinv.urls o (List.getElem?_mem ho)))
    (fun j o' hj hne => getElem?_set_of_owner ho hj (hown ▸ hne) _)
    fun u hu => (entriesKept_of_decrRef hr).mono fun x hrel hx =>
      hinv.two_le_of_relies hfree hu hrel ho hown ((boundTo_of_isOpen hopen x).mpr hx)
  have hset := openCount_set ho { o.fe with isOpen := false } x
  rw [refs_of_isOpen hopen, refs_of_closed rfl] at hset
  dsimp only at hset
  rw [nconnections_of_decrRef hr, hinv.count]
  omega

theorem Inv.assignRefs_isSome (hinv : Inv order s) {i j : Nat} {d o : Slot}
    (hd : s.objs[i]? = some d) (ho : s.objs[j]? = some o) :
    ∃ r, Sys.assignRefs s.contexts d.fe o.fe = some r := by
  unfold Sys.assignRefs
  split_ifs with h1 h2 h3
  · exact hinv.incrRef_isSome ho h2 _ rfl
  · exact hinv.decrRef_isSome hd (by simpa [h2] using h1)
  · obtain ⟨r₁, hr₁⟩ := hinv.decrRef_isSome hd h3.2
    obtain ⟨r, hr⟩ := hinv.incrRef_isSome ho (by rw [← not_not.mp h1]; exact h3.2) r₁
      (decrRef_ne hr₁ h3.1)
    exact ⟨r, by rw [hr₁]; exact hr⟩
  · exact ⟨_, rfl⟩

/-- `operator=` between different values: the counts move from the old binding to the new
one, and the front-end takes the new value. -/
theorem Inv.assign (hinv : Inv order s) {dst src : Nat} (hp : s.pc t = .assignWait dst src)
    (hfree : s.global = none) : Inv order (s.lockGlobal env order t) := by
  obtain ⟨⟨d, hd, hownd⟩, ⟨o, ho, -⟩⟩ := hinv.pcAt hp
  obtain ⟨r, hr⟩ := hinv.assignRefs_isSome hd ho
  simp only [Sys.lockGlobal, Sys.globalSection, hp, hd, ho, hr, Option.map_some',
    Sys.setObj_of_getElem? hd]
  refine hinv.underGlobal (by rw [hp]; rfl) hfree (fun x => ?_) (hinv.shapes.assignRefs hr) le_rfl
    (hinv.urls_set dst d.owner o.fe (hinv.urls o (List.getElem?_mem ho)))
    (fun j o' hj hne => getElem?_set_of_owner hd hj (hownd ▸ hne) _)
    fun u hu => (entriesKept_of_assignRefs hr).mono fun x hrel hx =>
      hinv.two_le_of_relies hfree hu hrel hd hownd hx
  have := openCount_set hd o.fe x
  rw [nconnections_of_assignRefs hr, hinv.count]
  omega

theorem Inv.resolve (hinv : Inv order s) {obj : Nat} {b : Bool}
    (hp : s.pc t = .resolveWait obj b) : Inv order (s.lockGlobal env order t) := by
  obtain ⟨o, ho, hown, hopen⟩ := hinv.pcAt hp
  obtain ⟨ctx, hx, hconn, hm, -⟩ := hinv.entry_of_bound ho (boundTo_id hopen)
  simp only [Sys.lockGlobal, Sys.globalSection, hp, ho, hx, if_pos (And.intro hconn hm)]
  exact hinv.setPc (by rw [hp]; rfl) (by rw [hp]; rfl) ⟨o, ctx, ho, hown, hopen, hx, rfl, hconn⟩

/-- The constructor on an id the registry holds: `assert(nref > 0)`, then the entry mutex
is taken with `contexts_mtx` still held. -/
theorem Inv.construct_found (hinv : Inv order s) {url : List Char} {meth : HttpMethod}
    {cid : Int} (hp : s.pc t = .ctorWait url meth cid) (hfree : s.global = none) {ctx : Context}
    (hc : s.contexts cid = some ctx) : Inv order (s.lockGlobal env order t) := by
  simp only [Sys.lockGlobal, Sys.globalSection, hp, hc]
  split_ifs with hpos
  · refine hinv.of_frame ⟨fun _ hu => Function.update_noteq hu _ _, fun _ _ h _ => h,
        fun _ _ => .rfl, global_acquire hfree, fun _ _ _ => Iff.rfl⟩ hinv.count hinv.shapes
      hinv.nextMtx_pos hinv.urls (by simp [Pc.holdsGlobal]) (fun m => ?_)
      (.of_pc (Function.update_same _ _ _)
        ⟨ctx, hc, rfl, (hinv.shapes cid ctx hc).isSome_of_pos hpos⟩)
    simp only [Function.update_same]
    rw [hinv.mutex, hp]
    simp [Pc.holdsEntry]
  · exact hinv.setPc (by rw [hp]; rfl) (by rw [hp]; rfl)
      ((hinv.shapes cid ctx hc).lhsFirst_of_not_pos hpos)

/-- The constructor on an id the registry does not hold: `contexts[context_id] =
Context(new HTTPConnection(...))`, then `incr_ref`. When the connection's constructor
throws, the left side may have inserted a default entry already. -/
theorem Inv.construct_new (hinv : Inv order s) {url : List Char} {meth : HttpMethod}
    {cid : Int} (hp : s.pc t = .ctorWait url meth cid) (hfree : s.global = none)
    (hc : s.contexts cid = none) : Inv order (s.lockGlobal env order t) := by
  have h0 : (openCount s.objs cid : Int) = 0 := by rw [← hinv.count]; simp [nconnections, hc]
  have hwait : (s.pc t).waitsGlobal := by rw [hp]; rfl
  have hinsert : ∀ v, ∀ u, u ≠ t →
      EntriesKept (Relies s u) s.contexts (Function.update s.contexts cid v) :=
    fun v _ _ => (entriesKept_insert hc v).mono fun _ _ => trivial
  simp only [Sys.lockGlobal, Sys.globalSection, hp, hc]
  cases hn : newConnection env url meth with
  | ok conn =>
    simp only [@incrRef_eq _ _ (Context.ofConn conn s.nextMtx) (Function.update_same _ _ _) rfl,
      Option.map_some', Function.update_idem]
    refine hinv.underGlobal hwait hfree (fun x => ?_) (hinv.shapes.update cid fun ctx h => ?_)
      (Nat.le_succ _) (hinv.urls_append t (opened url meth cid) (newConnection_urlOk env hn))
      (fun j o hj _ => getElem?_append_of_some hj _) (hinsert _)
    · rw [nconnections_update, Sys.addObj, openCount_append, refs_of_isOpen rfl, ← hinv.count]
      by_cases hx : cid = x
      · subst hx; simp [Context.ofConn, opened, nconnections, hc]
      · simp [opened, hx]
    · cases h
      exact .inl ⟨rfl, by simp [Context.ofConn], hinv.nextMtx_pos, fun _ h => by
        cases h; exact newConnection_tlsOk env hn⟩
  | error e =>
    cases order with
    | rhsFirst => exact hinv.setPc (by rw [hp]; rfl) (by rw [hp]; rfl) trivial
    | lhsFirst =>
      refine hinv.underGlobal hwait hfree (fun x => ?_)
        (hinv.shapes.update cid fun ctx h => ?_) le_rfl hinv.urls (fun _ _ h _ => h) (hinsert _)
      · rw [nconnections_update]
        split_ifs with hx
        · subst hx; simp [Context.default, h0]
        · exact hinv.count x
      · cases h
        exact .inr ⟨rfl, rfl, rfl, rfl⟩

theorem Inv.lockGlobal (hinv : Inv order s) (hwait : (s.pc t).waitsGlobal)
    (hfree : s.global = none) : Inv order (s.lockGlobal env order t) := by
  cases hp : s.pc t with
  | ctorWait url meth cid =>
    cases hc : s.contexts cid with
    | none => exact hinv.construct_new env hp hfree hc
    | some ctx => exact hinv.construct_found env hp hfree hc
  | copyWait src => exact hinv.copy env hp hfree
  | assignWait dst src => exact hinv.assign env hp hfree
  | closeWait obj => exact hinv.close env hp hfree
  | resolveWait obj b => exact hinv.resolve env hp
  | countWait cid =>
    simp only [Sys.lockGlobal, Sys.globalSection, hp]
    exact hinv.setPc (by rw [hp]; rfl) (by rw [hp]; rfl) trivial
  | _ => simp [hp, Pc.waitsGlobal] at hwait

theorem Inv.construct_lock (hinv : Inv order s) {url : List Char} {meth : HttpMethod} {cid : Int}
    {m : Nat} (hp : s.pc t = .ctorEntry url meth cid m) (hfree : s.mutexes m = none) :
    Inv order (s.lockEntry env t) := by
  have hnone : (s.pc t).holdsEntry = none := by rw [hp]; rfl
  simp only [Sys.lockEntry, hp]
  refine hinv.of_frame ⟨fun _ hu => Function.update_noteq hu _ _, fun _ _ h _ => h,
      fun _ _ => .rfl, fun _ _ => Iff.rfl, mutexes_acquire hfree⟩ hinv.count hinv.shapes
    hinv.nextMtx_pos hinv.urls (hinv.global_move (by rw [hp]; rfl))
    (hinv.mutexes_acquire_self hnone rfl) (.of_pc (Function.update_same _ _ _) (hinv.pcAt hp))

/-- The body of `execute` under the entry mutex up to `curl_easy_perform`: the request is
pushed onto the entry's connection, and the front-end's pending fields are cleared. -/
theorem Inv.execute_lock (hinv : Inv order s) {obj : Nat} {b : Bool} {m : Nat}
    (hp : s.pc t = .execWait obj b m) (hfree : s.mutexes m = none) :
    Inv order (s.lockEntry env t) := by
  obtain ⟨o, ctx, ho, hown, hopen, hx, hm, hconn⟩ := hinv.pcAt hp
  obtain ⟨conn, hc⟩ := Option.isSome_iff_exists.mp hconn
  have hnone : (s.pc t).holdsEntry = none := by rw [hp]; rfl
  simp only [Sys.lockEntry, hp, ho, hx, hc, if_pos hm]
  obtain ⟨fields, hfe⟩ := keeps_executePrepared env (executeLocked_keeps env o.fe b) (o.fe, conn)
  have htls := keeps_executePrepared env (executeLocked_tlsKept env o.fe b) (o.fe, conn)
    ((hinv.shapes _ ctx hx).tlsOk conn hc)
  generalize executePrepared env o.fe b (o.fe, conn) = r at hfe htls ⊢
  generalize hr : Cpp.stateOf r = r' at hfe htls ⊢
  simp only [Sys.setObj_of_getElem? ho, hfe]
  have hshape : EntryShape order { ctx with conn := some r'.2 } :=
    (hinv.shapes _ ctx hx).of_isSome hconn rfl (Int.le_refl _) rfl fun _ h => by cases h; exact htls
  have hlen : obj < s.objs.length := (List.getElem?_eq_some_iff.mp ho).1
  refine hinv.of_frame ⟨fun _ hu => Function.update_noteq hu _ _,
      fun j o' hj hne => getElem?_set_of_owner ho hj (hown ▸ hne) _,
      fun _ _ => (entriesKept_update hx { ctx with conn := some r'.2 } rfl (by simp [hc])).mono
        fun _ _ => trivial,
      fun _ _ => Iff.rfl, mutexes_acquire hfree⟩
    (fun x => ?_) (hinv.shapes.update _ fun _ h => by cases h; exact hshape) hinv.nextMtx_pos
    (hinv.urls_set obj o.owner _ (hinv.urls o (List.getElem?_mem ho)))
    (hinv.global_move (by rw [hp, Pc.afterPrepare_holdsGlobal]; rfl))
    (hinv.mutexes_acquire_self hnone (Pc.afterPrepare_holdsEntry r))
    (.of_pc (Function.update_same _ _ _) (.afterPrepare r ⟨_, _, List.getElem?_set_self hlen, hown,
      hopen, Function.update_same _ _ _, hm, rfl⟩))
  dsimp only
  rw [nconnections_update_nref hx { ctx with conn := some r'.2 } rfl,
    openCount_set_same ho { o.fe with fields := fields } rfl rfl]
  exact hinv.count x

theorem Inv.lockEntry (hinv : Inv order s) {m : Nat} (hwait : (s.pc t).waitsEntry = some m)
    (hfree : s.mutexes m = none) : Inv order (s.lockEntry env t) := by
  cases hp : s.pc t with
  | ctorEntry url meth cid m' =>
    rw [hp] at hwait; cases hwait
    exact hinv.construct_lock env hp hfree
  | execWait obj b m' =>
    rw [hp] at hwait; cases hwait
    exact hinv.execute_lock env hp hfree
  | _ => simp [hp, Pc.waitsEntry] at hwait

/-- The constructor on an id the registry holds: `set_method`, `set_url` for a non-empty
URL, then both locks go and, unless those threw, `incr_ref` counts the new front-end. -/
theorem Inv.construct_unlock (hinv : Inv order s) {url : List Char} {meth : HttpMethod}
    {cid : Int} {m : Nat} (hp : s.pc t = .ctorHold url meth cid m) :
    Inv order (s.unlockEntry env t) := by
  obtain ⟨ctx, hx, hm, hconn⟩ := hinv.pcAt hp
  obtain ⟨conn, hc⟩ := Option.isSome_iff_exists.mp hconn
  have hheld : (s.pc t).holdsEntry = some m := by rw [hp]; rfl
  have hglobal : (s.pc t).holdsGlobal := by rw [hp]; rfl
  have hshape := hinv.shapes cid ctx hx
  have hframe : ∀ (ctx' : Context) objs, ctx'.mtx = ctx.mtx → ctx'.conn.isSome →
      (∀ (j : Nat) (o : Slot), s.objs[j]? = some o → objs[j]? = some o) →
      Frame s { s with
        contexts := Function.update s.contexts cid (some ctx'), objs := objs, global := none,
        mutexes := Function.update s.mutexes m none, pc := Function.update s.pc t .idle } t :=
    fun ctx' objs hm' hc' hobjs =>
    ⟨fun _ hu => Function.update_noteq hu _ _, fun j o h _ => hobjs j o h,
      fun _ _ => (entriesKept_update hx ctx' hm' (by rw [hc', hconn])).mono fun _ _ => trivial,
      hinv.global_release hglobal, hinv.mutexes_release hheld⟩
  simp only [Sys.unlockEntry, hp, hx, hc]
  cases hr : reconfigure env url meth conn with
  | ok u conn' =>
    simp only [@incrRef_eq _ _ { ctx with conn := some conn' } (Function.update_same _ _ _) rfl,
      Function.update_idem]
    refine hinv.of_frame (hframe _ _ rfl rfl fun j o h => getElem?_append_of_some h _) (fun x => ?_)
      (hinv.shapes.update cid fun _ h => by
        cases h; exact hshape.of_isSome hconn rfl (by simp only; omega) rfl fun _ h => by
          cases h; exact (reconfigure_tlsKept env url meth).of_ok hr (hshape.tlsOk conn hc))
      hinv.nextMtx_pos (hinv.urls_append t (opened url meth cid) (reconfigure_urlOk env hr))
      (by simp [Pc.holdsGlobal]) (hinv.mutexes_release_self hheld rfl)
      (.of_pc (Function.update_same _ _ _) trivial)
    rw [nconnections_update, Sys.addObj, openCount_append, refs_of_isOpen rfl, ← hinv.count]
    by_cases hxc : cid = x
    · subst hxc; simp [opened, nconnections, hx]
    · simp [opened, hxc]
  | error e conn' =>
    refine hinv.of_frame (hframe _ _ rfl rfl fun _ _ h => h) (fun x => ?_)
      (hinv.shapes.update cid fun _ h => by
        cases h; exact hshape.of_isSome hconn rfl (Int.le_refl _) rfl fun _ h => by
          cases h; exact (reconfigure_tlsKept env url meth).of_error hr (hshape.tlsOk conn hc))
      hinv.nextMtx_pos hinv.urls (by simp [Pc.holdsGlobal]) (hinv.mutexes_release_self hheld rfl)
      (.of_pc (Function.update_same _ _ _) trivial)
    dsimp only
    rw [nconnections_update_nref hx { ctx with conn := some conn' } rfl]
    exact hinv.count x

theorem Inv.unlockEntry (hinv : Inv order s) (hrel : (s.pc t).releases) :
    Inv order (s.unlockEntry env t) := by
  cases hp : s.pc t with
  | execHold obj m =>
    have hheld : (s.pc t).holdsEntry = some m := by rw [hp]; rfl
    simp only [Sys.unlockEntry, hp]
    exact hinv.of_frame ⟨fun _ hu => Function.update_noteq hu _ _, fun _ _ h _ => h,
        fun _ _ => .rfl, fun _ _ => Iff.rfl, hinv.mutexes_release hheld⟩ hinv.count hinv.shapes
      hinv.nextMtx_pos hinv.urls (hinv.global_move (by rw [hp]; rfl))
      (hinv.mutexes_release_self hheld rfl) (.of_pc (Function.update_same _ _ _) trivial)
  | ctorHold url meth cid m => exact hinv.construct_unlock env hp
  | _ => simp [hp, Pc.releases] at hrel

theorem Inv.performReturn (hinv : Inv order s) : Inv order (s.performReturn t) := by
  unfold Sys.performReturn
  split
  · rename_i obj b m hp
    have hat : PcAt order s t (.execPerform obj b m) := hinv.pcAt hp
    exact hinv.setPc (by rw [hp]; rfl) (by rw [hp]; rfl) hat
  · exact hinv

theorem Inv.step {s' : Sys} (hinv : Inv order s) (h : Step env order s s') : Inv order s' := by
  cases h with
  | call op hidle hown => exact hinv.call op hidle hown
  | lockGlobal hwait hfree => exact hinv.lockGlobal env hwait hfree
  | lockEntry hwait hfree => exact hinv.lockEntry env hwait hfree
  | performReturn _ => exact hinv.performReturn
  | unlockEntry hrel => exact hinv.unlockEntry env hrel

/-- The invariant holds in every state of every interleaving. -/
theorem Inv.reachable (h : Reachable env order s) : Inv order s := by
  induction h with
  | init => exact Inv.init order
  | step _ hst ih => exact ih.step env hst

end CurlConnect

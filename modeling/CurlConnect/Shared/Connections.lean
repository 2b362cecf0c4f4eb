import CurlConnect.Curl.Options
import CurlConnect.Shared.Locks

/-!
The connections of the registry as objects of the `CurlConnection` interface.

Every operation the registry runs on a shared connection, that is the constructors of
`HTTPConnection`, the push and `execute` of a front-end, and the reconfiguration of an entry
a constructor finds, acts on `*_pimpl` as a run of calls of the interface, with a direct
`set_option` only of the options of a method and never `RESET_options` or `close`
(`ImplReached`). So in every state of every interleaving, each shared connection is in a
state such a run reaches from `CurlConnectionImpl_()`, and every invariant of those runs
holds of it: `_options` mirrors the handle, and neither `_header` nor a recorded
`CURLOPT_HTTPHEADER` points at a freed list (`shared_connections_are_interface_runs`); the
handle is there, with the `CURLOPT_NOSIGNAL` the constructor set
(`shared_connections_keep_nosignal`).

`Reachable.connsSatisfy` is the induction over the steps of the registry, done once for
any property of a connection that the constructors give and the push, `execute` and the
reconfiguration keep.
-/

namespace CurlConnect

open CurlConnectionImpl (ReachedBy reachedBy_refl reachedBy_trans reachedBy_call)

/-- A call the registry makes on a shared connection: a direct `set_option` only of the
options of a method, and never `RESET_options` or `close`. -/
def CurlCall.OnShared : CurlCall → Prop
  | .setOption o _ => o = .httpGet ∨ o = .post ∨ o = .customRequest
  | .resetOptions | .close => False
  | _ => True

instance : DecidablePred CurlCall.OnShared
  | .setOption o _ => inferInstanceAs (Decidable (o = .httpGet ∨ o = .post ∨ o = .customRequest))
  | .resetOptions | .close => isFalse id
  | .setUrl _ | .setSslVerify _ | .setSslVerifyUsingCaBundle _ | .setSslVerifyUsingCaCerts _
  | .setEncoding _ | .setKeepalive _ | .setTimeout _ | .addHeaders _ | .resetHeaders
  | .setFields _ | .setFieldsText _ | .execute _ => isTrue trivial

theorem CurlCall.OnShared.leavesHeaderOption {call : CurlCall} (h : call.OnShared) :
    call.LeavesHeaderOption := by
  cases call
  case setOption o v => rcases h with rfl | rfl | rfl <;> simp [CurlCall.LeavesHeaderOption]
  all_goals trivial

theorem CurlConnectionImpl.execute_reachedBy (env : Env) {ok : CurlCall → Prop} (b : Bool)
    (h : ok (.execute b)) : Cpp.Keeps (ReachedBy env ok) (CurlConnectionImpl.execute env b) :=
  fun c => ⟨[.execute b], by simpa using h, by
    simp only [CurlConnectionImpl.runCalls, CurlCall.run, Cpp.bind_apply]
    cases CurlConnectionImpl.execute env b c <;> rfl⟩

namespace HTTPConnection

variable (env : Env)

/-- `*_pimpl` goes where a run of the calls the registry makes takes it. -/
def ImplReached (h h' : HTTPConnection) : Prop :=
  ReachedBy env CurlCall.OnShared h.impl h'.impl

theorem implReached_refl : Reflexive (ImplReached env) := fun h => reachedBy_refl env _ h.impl

theorem implReached_trans : Transitive (ImplReached env) :=
  fun _ _ _ h₁ h₂ => reachedBy_trans env _ h₁ h₂

theorem lift_reached (call : CurlCall) (hcall : call.OnShared) :
    Cpp.Keeps (ImplReached env) (lift (call.run env)) :=
  Cpp.Keeps.focus_of (reachedBy_call env hcall) fun _ _ h => h

theorem modify_reached {f : HTTPConnection → HTTPConnection} (hf : ∀ h, (f h).impl = h.impl) :
    Cpp.Keeps (ImplReached env) (modify f : Cpp HTTPConnection PUnit) :=
  .modify fun h => by unfold ImplReached; rw [hf]; exact reachedBy_refl env _ _

theorem setMethod_reached (meth : HttpMethod) : Cpp.Keeps (ImplReached env) (setMethod env meth) := by
  refine .bind (implReached_trans env) ?_ fun _ => modify_reached env fun _ => rfl
  cases meth
  case other => exact fun h => implReached_refl env h
  all_goals
    exact .bind (implReached_trans env) (lift_reached env (.setOption _ _) (by decide)) fun _ =>
      .pure (implReached_refl env) _

theorem setSslVerification_reached : Cpp.Keeps (ImplReached env) (setSslVerification env) := by
  unfold setSslVerification
  split
  · exact lift_reached env (.setSslVerify true) trivial
  · exact lift_reached env (.setSslVerifyUsingCaBundle _) trivial

theorem setUrl_reached (url : List Char) : Cpp.Keeps (ImplReached env) (setUrl env url) := by
  refine .bind (implReached_trans env) (fun h => ?_) fun _ => lift_reached env (.setUrl url) trivial
  unfold selectProtocol
  split_ifs
  · refine Cpp.Keeps.bind (implReached_trans env) (setSslVerification_reached env)
      (fun _ => ?_) h
    exact modify_reached env fun _ => rfl
  · exact implReached_refl env h
  · exact implReached_refl env h
  · exact implReached_refl env h

theorem ctorBody_reached (meth : HttpMethod) : Cpp.Keeps (ImplReached env) (ctorBody env meth) :=
  .bind (implReached_trans env) (setMethod_reached env meth) fun _ =>
    .bind (implReached_trans env) (lift_reached env (.setEncoding _) trivial) fun _ =>
      lift_reached env (.setKeepalive true) trivial

theorem build_reached {meth : HttpMethod} {body : Cpp HTTPConnection Unit}
    (hbody : Cpp.Keeps (ImplReached env) body) {h : HTTPConnection}
    (hb : build env meth body = .ok h) :
    ∃ c, CurlConnectionImpl.new env = .ok c ∧ ReachedBy env CurlCall.OnShared c h.impl := by
  unfold build at hb
  split at hb
  · cases hb
  · rename_i c hc
    split at hb
    · rename_i hrun
      cases hb
      exact ⟨c, hc, hbody.of_ok hrun⟩
    · cases hb

end HTTPConnection

namespace SharedHTTPConnection

open HTTPConnection (ImplReached implReached_refl implReached_trans lift_reached)

variable (env : Env)

theorem pushRequest_reached (fe : SharedHTTPConnection) :
    Cpp.Keeps (ImplReached env) (pushRequest env fe) := by
  refine .bind (implReached_trans env) (HTTPConnection.setUrl_reached env fe.url) fun _ =>
    .bind (implReached_trans env) (lift_reached env .resetHeaders trivial) fun _ =>
      .bind (implReached_trans env) ?_ fun _ =>
        .bind (implReached_trans env) (HTTPConnection.setMethod_reached env fe.meth) fun _ => ?_
  · split_ifs
    · exact .pure (implReached_refl env) _
    · exact lift_reached env (.addHeaders _) trivial
  · split_ifs
    · exact lift_reached env (.setFields _) trivial
    · exact .pure (implReached_refl env) _

theorem executeLocked_reached (fe : SharedHTTPConnection) (b : Bool) :
    Cpp.Keeps (fun a a' => ImplReached env a.2 a'.2) (executeLocked env fe b) := by
  have htrans : Transitive fun a a' : SharedHTTPConnection × HTTPConnection =>
      ImplReached env a.2 a'.2 := fun _ _ _ h₁ h₂ => implReached_trans env h₁ h₂
  exact .bind htrans (.focus_of (pushRequest_reached env fe) fun _ _ h => h) fun _ =>
    .bind htrans (.modify fun _ => implReached_refl env _) fun _ =>
      .focus_of (.focus_of (.bind (reachedBy_trans env _)
        (@reachedBy_call env _ (.setTimeout fe.timeout) trivial) fun _ =>
          CurlConnectionImpl.execute_reachedBy env b trivial) fun _ _ h => h) fun _ _ h => h

theorem reconfigure_reached (url : List Char) (meth : HttpMethod) :
    Cpp.Keeps (ImplReached env) (reconfigure env url meth) := by
  refine .bind (implReached_trans env) (HTTPConnection.setMethod_reached env meth) fun _ => ?_
  split_ifs
  · exact .pure (implReached_refl env) _
  · exact HTTPConnection.setUrl_reached env url

theorem newConnection_reached {url : List Char} {meth : HttpMethod} {conn : HTTPConnection}
    (h : newConnection env url meth = .ok conn) :
    ∃ c, CurlConnectionImpl.new env = .ok c ∧ ReachedBy env CurlCall.OnShared c conn.impl := by
  unfold newConnection at h
  split_ifs at h
  · exact HTTPConnection.build_reached env (HTTPConnection.ctorBody_reached env meth) h
  · exact HTTPConnection.build_reached env (.bind (implReached_trans env)
      (HTTPConnection.ctorBody_reached env meth) fun _ => HTTPConnection.setUrl_reached env url) h

end SharedHTTPConnection

/-- Every connection the registry holds satisfies `P`. -/
def ConnsSatisfy (P : HTTPConnection → Prop) (contexts : Int → Option Context) : Prop :=
  ∀ cid ctx conn, contexts cid = some ctx → ctx.conn = some conn → P conn

namespace ConnsSatisfy

open SharedHTTPConnection

variable {P : HTTPConnection → Prop} {c c' : Int → Option Context} {cid : Int}

theorem update (h : ConnsSatisfy P c) {v : Option Context}
    (hv : ∀ ctx conn, v = some ctx → ctx.conn = some conn → P conn) :
    ConnsSatisfy P (Function.update c cid v) := by
  intro x ctx conn hx hc
  by_cases hxc : x = cid
  · subst hxc
    rw [Function.update_same] at hx
    exact hv ctx conn hx hc
  · rw [Function.update_noteq hxc] at hx
    exact h x ctx conn hx hc

theorem update_same_conn (h : ConnsSatisfy P c) {ctx : Context} (hx : c cid = some ctx)
    (ctx' : Context) (hconn : ctx'.conn = ctx.conn) :
    ConnsSatisfy P (Function.update c cid (some ctx')) :=
  h.update fun _ conn hv hc => by cases hv; exact h cid ctx conn hx (hconn ▸ hc)

theorem of_incrRef (h : ConnsSatisfy P c) (hr : incrRef c cid = some c') : ConnsSatisfy P c' := by
  obtain ⟨ctx, hx, -, rfl⟩ := incrRef_some hr
  exact h.update_same_conn hx _ rfl

theorem of_decrRef (h : ConnsSatisfy P c) (hr : decrRef c cid = some c') : ConnsSatisfy P c' := by
  obtain ⟨ctx, hx, -, -, rfl⟩ := decrRef_some hr
  split_ifs
  · exact h.update fun _ _ hv => nomatch hv
  · exact h.update_same_conn hx _ rfl

theorem of_assignRefs (h : ConnsSatisfy P c) {d o : SharedHTTPConnection}
    (hr : Sys.assignRefs c d o = some c') : ConnsSatisfy P c' := by
  unfold Sys.assignRefs at hr
  split_ifs at hr
  · exact h.of_incrRef hr
  · exact h.of_decrRef hr
  · obtain ⟨c₁, hd, hi⟩ := Option.bind_eq_some.mp hr
    exact (h.of_decrRef hd).of_incrRef hi
  · cases hr
    exact h

end ConnsSatisfy

section Steps

open SharedHTTPConnection

variable {env : Env} {order : EvalOrder} {s : Sys} {t : Nat} {P : HTTPConnection → Prop}

theorem Sys.setObj_contexts (s : Sys) (i : Nat) (fe : SharedHTTPConnection) :
    (s.setObj i fe).contexts = s.contexts := by
  unfold Sys.setObj; split <;> rfl

theorem Sys.call_contexts (s : Sys) (t : Nat) (op : Op) : (s.call t op).contexts = s.contexts := by
  cases op <;> simp only [Sys.call] <;> (repeat' split) <;>
    first | rfl | exact Sys.setObj_contexts _ _ _

theorem Sys.performReturn_contexts (s : Sys) (t : Nat) :
    (s.performReturn t).contexts = s.contexts := by
  unfold Sys.performReturn; split <;> rfl

theorem Sys.globalSection_conns
    (hnew : ∀ url meth conn, newConnection env url meth = .ok conn → P conn)
    (h : ConnsSatisfy P s.contexts) {p : Pc} {s' : Sys}
    (hs : Sys.globalSection env order s t p = some s') : ConnsSatisfy P s'.contexts := by
  cases p
  case ctorWait url meth cid =>
    simp only [Sys.globalSection] at hs
    split at hs
    · split at hs
      · rename_i conn hn
        obtain ⟨r, hr, rfl⟩ := Option.map_eq_some'.mp hs
        exact (h.update fun _ _ hv hc => by
          cases hv; cases hc; exact hnew _ _ _ hn).of_incrRef hr
      · cases order
        · cases hs
          exact h.update fun _ _ hv hc => by cases hv; cases hc
        · cases hs
          exact h
    · split_ifs at hs
      cases hs
      exact h
  case copyWait src =>
    simp only [Sys.globalSection] at hs
    split at hs
    · obtain ⟨r, hr, rfl⟩ := Option.map_eq_some'.mp hs
      exact h.of_incrRef hr
    · cases hs
  case assignWait dst src =>
    simp only [Sys.globalSection] at hs
    split at hs
    · obtain ⟨r, hr, rfl⟩ := Option.map_eq_some'.mp hs
      exact h.of_assignRefs hr
    · cases hs
  case closeWait obj =>
    simp only [Sys.globalSection] at hs
    split at hs
    · obtain ⟨r, hr, rfl⟩ := Option.map_eq_some'.mp hs
      exact h.of_decrRef hr
    · cases hs
  case resolveWait obj b =>
    simp only [Sys.globalSection] at hs
    repeat' split at hs
    all_goals first | (cases hs; exact h) | cases hs
  all_goals
    cases hs
    exact h

theorem Sys.lockGlobal_conns
    (hnew : ∀ url meth conn, newConnection env url meth = .ok conn → P conn)
    (h : ConnsSatisfy P s.contexts) : ConnsSatisfy P (s.lockGlobal env order t).contexts := by
  unfold Sys.lockGlobal
  split
  · exact Sys.globalSection_conns hnew h ‹_›
  · exact h

theorem Sys.lockEntry_conns
    (hexec : ∀ fe b, Cpp.Keeps (fun a a' => P a.2 → P a'.2) (executeLocked env fe b))
    (h : ConnsSatisfy P s.contexts) : ConnsSatisfy P (s.lockEntry env t).contexts := by
  unfold Sys.lockEntry
  split
  · exact h
  · split
    · rename_i o _
      split
      · rename_i ctx hx
        split
        · rename_i conn hc
          split_ifs
          · exact h.update fun _ _ hv hc' => by
              cases hv; cases hc'
              exact keeps_executePrepared env (hexec o.fe _) (o.fe, conn) (h _ ctx conn hx hc)
          · exact h
        · exact h
      · exact h
    · exact h
  · exact h

theorem Sys.unlockEntry_conns
    (hrecon : ∀ url meth, Cpp.Keeps (Cpp.Kept P) (reconfigure env url meth))
    (h : ConnsSatisfy P s.contexts) : ConnsSatisfy P (s.unlockEntry env t).contexts := by
  unfold Sys.unlockEntry
  split
  · exact h
  · rename_i url meth cid m _
    split
    · rename_i ctx hx
      split
      · rename_i conn hc
        split
        · rename_i conn' hr
          split
          · rename_i r hi
            exact (h.update fun _ _ hv hc' => by
              cases hv; cases hc'; exact (hrecon url meth).of_ok hr (h _ ctx conn hx hc)).of_incrRef hi
          · exact h
        · rename_i conn' hr
          exact h.update fun _ _ hv hc' => by
            cases hv; cases hc'; exact (hrecon url meth).of_error hr (h _ ctx conn hx hc)
      · exact h
    · exact h
  · exact h

/-- A property of a connection that the constructors give and that the push and `execute`
of any front-end and the reconfiguration of an entry keep holds of every connection of every
state of every interleaving. -/
theorem Reachable.connsSatisfy
    (hnew : ∀ url meth conn, newConnection env url meth = .ok conn → P conn)
    (hexec : ∀ fe b, Cpp.Keeps (fun a a' => P a.2 → P a'.2) (executeLocked env fe b))
    (hrecon : ∀ url meth, Cpp.Keeps (Cpp.Kept P) (reconfigure env url meth))
    (hr : Reachable env order s) : ConnsSatisfy P s.contexts := by
  induction hr with
  | init => exact fun _ _ _ h => nomatch h
  | step _ hst ih =>
      cases hst with
      | call op _ _ => rw [Sys.call_contexts]; exact ih
      | lockGlobal _ _ => exact Sys.lockGlobal_conns hnew ih
      | lockEntry _ _ => exact Sys.lockEntry_conns hexec ih
      | performReturn _ => rw [Sys.performReturn_contexts]; exact ih
      | unlockEntry _ => exact Sys.unlockEntry_conns hrecon ih

end Steps

section NoSignal

open SharedHTTPConnection

variable (env : Env)

theorem CurlConnectionImpl.new_noSignal {c : CurlConnectionImpl}
    (hnew : CurlConnectionImpl.new env = .ok c) :
    c.handle.bind (· .noSignal) = some (.long 1) := by
  unfold CurlConnectionImpl.new at hnew
  split at hnew
  · rename_i c₁ hr
    cases hnew
    obtain ⟨_, c₀, h₀, h₁⟩ := Cpp.bind_eq_ok hr
    exact ((setOption_optionKept env .noSignal (by decide) _).of_ok h₁).trans
      (CurlConnectionImpl.setOption_value env h₀)
  · cases hnew

theorem CurlCall.run_noSignal (call : CurlCall) (hcall : call.OnShared) :
    Cpp.Keeps (OptionKept .noSignal) (call.run env) :=
  CurlCall.run_keeps env (optionKept_refl _) (optionKept_trans _)
    (fun _ v h => setOption_optionKept env _ h.2.2.1 v) (addHeaders_optionKept env _ (by decide))
    (fun c => resetHeaders_optionKept _ c) (fun _ => rfl) call
    (fun o v h => setOption_optionKept env _ (by
      subst h
      rcases hcall with rfl | rfl | rfl <;> decide) v)
    (fun _ _ => setOption_optionKept env _ (by decide) _)
    (fun h => by subst h; exact hcall.elim) (fun h => by subst h; exact hcall.elim)

end NoSignal

section Shared

open SharedHTTPConnection CurlConnectionImpl

variable {env : Env} {order : EvalOrder} {s : Sys}

/-- Every connection of every state of every interleaving is where a run of the calls the
registry makes takes a `CurlConnectionImpl_()`. -/
theorem Reachable.conns_reached (h : Reachable env order s) :
    ConnsSatisfy (fun conn => ∃ c, CurlConnectionImpl.new env = .ok c ∧
      ReachedBy env CurlCall.OnShared c conn.impl) s.contexts :=
  Reachable.connsSatisfy (fun _ _ _ hn => newConnection_reached env hn)
    (fun fe b a ⟨c, hc, hr⟩ =>
      ⟨c, hc, reachedBy_trans env _ hr (executeLocked_reached env fe b a)⟩)
    (fun url meth a ⟨c, hc, hr⟩ =>
      ⟨c, hc, reachedBy_trans env _ hr (reconfigure_reached env url meth a)⟩) h

/-- In every state of every interleaving, in either evaluation order, the `*_pimpl` of every
connection of the registry is where a run of calls of the `CurlConnection` interface takes a
`CurlConnectionImpl_()`, none of the calls a `set_option` of `CURLOPT_HTTPHEADER`. So its
`_options` holds the text of every value its handle holds, but `CURLOPT_HTTPHEADER` may be
missing; its `_header` is null or a list not yet freed; and while its `_options` records
`CURLOPT_HTTPHEADER`, the handle's is null or a list not yet freed. -/
theorem shared_connections_are_interface_runs (h : Reachable env order s) {cid : Int}
    {ctx : Context} {conn : HTTPConnection} (hx : s.contexts cid = some ctx)
    (hc : ctx.conn = some conn) :
    (∃ c, CurlConnectionImpl.new env = .ok c ∧
        ReachedBy env CurlCall.LeavesHeaderOption c conn.impl) ∧
      OptionsMirror conn.impl ∧ HeapOk conn.impl := by
  obtain ⟨c, hnew, hreach⟩ := h.conns_reached cid ctx conn hx hc
  exact ⟨⟨c, hnew, hreach.mono env fun _ => CurlCall.OnShared.leavesHeaderOption⟩,
    hreach.preserves env (fun call _ => call.run_mirror env) (new_mirror env hnew),
    hreach.preserves env (fun call hcall => call.run_heapOk env hcall.leavesHeaderOption)
      (new_heapOk env hnew)⟩

theorem shared_connections_are_interface_runs_nestedRun :
    ∃ ctx conn, nestedRun.contexts 1 = some ctx ∧ ctx.conn = some conn ∧
      OptionsMirror conn.impl ∧ HeapOk conn.impl := by
  obtain ⟨conn, hb⟩ := Option.isSome_iff_exists.mp
    (by decide : ((nestedRun.contexts 1).bind Context.conn).isSome = true)
  obtain ⟨ctx, hx, hc⟩ := Option.bind_eq_some.mp hb
  exact ⟨ctx, conn, hx, hc, (shared_connections_are_interface_runs nestedRun_reachable hx hc).2⟩

/-- In every state of every interleaving, in either evaluation order, every connection of the
registry has its libcurl handle, with `CURLOPT_NOSIGNAL` 1 as `CurlConnectionImpl_()` set it:
the registry never closes a shared connection or resets its options, and no call it makes on
one sets `CURLOPT_NOSIGNAL`. -/
theorem shared_connections_keep_nosignal (h : Reachable env order s) {cid : Int}
    {ctx : Context} {conn : HTTPConnection} (hx : s.contexts cid = some ctx)
    (hc : ctx.conn = some conn) :
    ∃ hdl, conn.impl.handle = some hdl ∧ hdl .noSignal = some (.long 1) := by
  obtain ⟨c, hnew, hreach⟩ := h.conns_reached cid ctx conn hx hc
  have hsig : conn.impl.handle.bind (· .noSignal) = some (.long 1) :=
    hreach.preserves env (fun call hcall => (call.run_noSignal env hcall).mono fun _ _ hk hp =>
      hk.trans hp) (CurlConnectionImpl.new_noSignal env hnew)
  exact Option.bind_eq_some.mp hsig

theorem shared_connections_keep_nosignal_nestedRun :
    ∃ ctx conn, nestedRun.contexts 1 = some ctx ∧ ctx.conn = some conn ∧
      ∃ hdl, conn.impl.handle = some hdl ∧ hdl .noSignal = some (.long 1) := by
  obtain ⟨conn, hb⟩ := Option.isSome_iff_exists.mp
    (by decide : ((nestedRun.contexts 1).bind Context.conn).isSome = true)
  obtain ⟨ctx, hx, hc⟩ := Option.bind_eq_some.mp hb
  exact ⟨ctx, conn, hx, hc, shared_connections_keep_nosignal nestedRun_reachable hx hc⟩

end Shared

end CurlConnect

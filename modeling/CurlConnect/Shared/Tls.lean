import CurlConnect.Shared.Registry

/-!
TLS verification on an `HTTPConnection`. `set_url` runs `SET_ssl_verify(true)`, which sets
`CURLOPT_SSL_VERIFYPEER` to 1 and `CURLOPT_SSL_VERIFYHOST` to 2, before it turns the
protocol to `https`; no other call of `HTTPConnection`, and nothing the `execute` of a
shared front-end runs, sets either option or the protocol. So a connection on `https`
verifies peer and host (`HTTPConnection.TlsOk`): both constructors leave a connection so,
and `set_url`, `execute` and the reconfiguration of a constructor keep it. A push of a URL
that begins with `https://` leaves the connection on `https`, so the `execute` of such a
front-end reaches `curl_easy_perform` with both options on, whatever requests ran on the
shared connection before (`atPerform_tlsOn`).
-/

namespace CurlConnect

open SharedHTTPConnection

/-- Peer and host verification are on: `CURLOPT_SSL_VERIFYPEER` is 1 and
`CURLOPT_SSL_VERIFYHOST` is 2. -/
def CurlConnectionImpl.TlsOn (c : CurlConnectionImpl) : Prop :=
  c.handle.bind (· .sslVerifyPeer) = some (.long 1) ∧
    c.handle.bind (· .sslVerifyHost) = some (.long 2)

instance : DecidablePred CurlConnectionImpl.TlsOn := fun _ => inferInstanceAs (Decidable (_ ∧ _))

/-- A connection on `https` verifies peer and host. -/
def HTTPConnection.TlsOk (h : HTTPConnection) : Prop := h.proto = .https → h.impl.TlsOn

instance : DecidablePred HTTPConnection.TlsOk := fun _ => inferInstanceAs (Decidable (_ → _))

namespace CurlConnectionImpl

variable (env : Env)

theorem TlsOn.of_kept {c c' : CurlConnectionImpl} (h : c.TlsOn)
    (hp : OptionKept .sslVerifyPeer c c') (hh : OptionKept .sslVerifyHost c c') : c'.TlsOn :=
  ⟨hp.trans h.1, hh.trans h.2⟩

theorem setSslVerify_tlsOn {c c' : CurlConnectionImpl} (h : setSslVerify env true c = .ok () c') :
    c'.TlsOn := by
  obtain ⟨_, c₁, h₁, h₂⟩ := Cpp.bind_eq_ok h
  have hpeer := (setOption_optionKept env .sslVerifyPeer (by decide) _).of_ok h₂
  exact ⟨hpeer.trans (setOption_value env h₁), setOption_value env h₂⟩

end CurlConnectionImpl

namespace HTTPConnection

variable (env : Env)

/-- The call leaves the protocol and both verification options as they were. -/
def TlsUntouched (h h' : HTTPConnection) : Prop :=
  h'.proto = h.proto ∧ ImplOptionKept .sslVerifyPeer h h' ∧ ImplOptionKept .sslVerifyHost h h'

theorem tlsUntouched_refl : Reflexive TlsUntouched := fun _ => ⟨rfl, rfl, rfl⟩

theorem tlsUntouched_trans : Transitive TlsUntouched := fun _ _ _ h₁ h₂ =>
  ⟨h₂.1.trans h₁.1, h₂.2.1.trans h₁.2.1, h₂.2.2.trans h₁.2.2⟩

/-- A connection that verified on `https` still does. -/
def TlsKept (h h' : HTTPConnection) : Prop := h.TlsOk → h'.TlsOk

theorem tlsKept_refl : Reflexive TlsKept := fun _ h => h

theorem tlsKept_trans : Transitive TlsKept := fun _ _ _ h₁ h₂ => h₂ ∘ h₁

/-- A connection that verified on `https` is on `https` and verifies. -/
def OnHttps (h h' : HTTPConnection) : Prop := h.TlsOk → h'.proto = .https ∧ h'.TlsOk

theorem TlsOk.of_untouched {h h' : HTTPConnection} (hok : h.TlsOk) (hu : TlsUntouched h h') :
    h'.TlsOk :=
  fun hs => (hok (hu.1.symm.trans hs)).of_kept hu.2.1 hu.2.2

theorem tlsKept_of_untouched (h h' : HTTPConnection) (hu : TlsUntouched h h') : TlsKept h h' :=
  fun hok => hok.of_untouched hu

theorem OnHttps.of_untouched (h₁ h₂ h₃ : HTTPConnection) (h : OnHttps h₁ h₂)
    (hu : TlsUntouched h₂ h₃) : OnHttps h₁ h₃ :=
  fun hok => ⟨hu.1.trans (h hok).1, (h hok).2.of_untouched hu⟩

theorem lift_untouched {α : Type} {x : Cpp CurlConnectionImpl α}
    (hp : Cpp.Keeps (OptionKept .sslVerifyPeer) x) (hh : Cpp.Keeps (OptionKept .sslVerifyHost) x) :
    Cpp.Keeps TlsUntouched (lift x) :=
  Cpp.Keeps.focus_of (show Cpp.Keeps (fun c c' => OptionKept .sslVerifyPeer c c' ∧
    OptionKept .sslVerifyHost c c') x from fun c => ⟨hp c, hh c⟩) fun _ _ h => ⟨rfl, h⟩

theorem setOption_untouched {o : CURLoption} (hp : o ≠ .sslVerifyPeer) (hh : o ≠ .sslVerifyHost)
    (v : OptVal) : Cpp.Keeps TlsUntouched (lift (CurlConnectionImpl.setOption env o v)) :=
  lift_untouched (setOption_optionKept env _ hp v) (setOption_optionKept env _ hh v)

theorem setMethod_untouched (meth : HttpMethod) : Cpp.Keeps TlsUntouched (setMethod env meth) := by
  refine .bind tlsUntouched_trans ?_ fun _ => .modify fun _ => ⟨rfl, rfl, rfl⟩
  cases meth
  case other => exact fun _ => tlsUntouched_refl _
  all_goals
    refine .bind tlsUntouched_trans (setOption_untouched env ?_ ?_ _) fun _ =>
      .pure tlsUntouched_refl _
    all_goals decide

theorem setUrlImpl_untouched (url : List Char) :
    Cpp.Keeps TlsUntouched (lift (CurlConnectionImpl.setUrl env url)) :=
  lift_untouched (setOption₂_optionKept env _ (by decide) (by decide) _ _)
    (setOption₂_optionKept env _ (by decide) (by decide) _ _)

theorem setSslVerification_proto :
    Cpp.Keeps (fun h h' : HTTPConnection => h'.proto = h.proto) (setSslVerification env) := by
  unfold setSslVerification
  split <;> exact .focus fun _ _ => rfl

theorem setSslVerification_tlsOn :
    Cpp.Returns (fun _ h' : HTTPConnection => h'.impl.TlsOn) (setSslVerification env) := by
  intro h u h' hok
  unfold setSslVerification at hok
  split at hok <;> obtain ⟨c', hc, rfl⟩ := lift_eq_ok hok
  · exact CurlConnectionImpl.setSslVerify_tlsOn env hc
  · obtain ⟨_, c₁, h₁, h₂⟩ := Cpp.bind_eq_ok hc
    exact (CurlConnectionImpl.setSslVerify_tlsOn env h₁).of_kept
      ((setOption_optionKept env _ (by decide) _).of_ok h₂)
      ((setOption_optionKept env _ (by decide) _).of_ok h₂)

/-- The protocol test of `set_url` runs the TLS set-up before the protocol turns to
`https`, and a set-up that throws leaves the protocol as it was. -/
theorem selectProtocol_tlsKept (url : List Char) : Cpp.Keeps TlsKept (selectProtocol env url) := by
  intro h hok
  unfold selectProtocol
  split_ifs with hs hp
  · rw [Cpp.bind_apply]
    cases hr : setSslVerification env h with
    | ok u h₁ => exact fun _ => setSslVerification_tlsOn env h u h₁ hr
    | error e h₁ =>
      exact fun hs' => absurd (((setSslVerification_proto env).of_error hr).symm.trans hs') hp
  · exact hok
  · exact fun hs' => nomatch hs'
  · exact hok

/-- On a URL that begins with `https://`, a protocol test that returns leaves the
connection on `https`. -/
theorem selectProtocol_onHttps {url : List Char} (hurl : "https://".toList <+: url) :
    Cpp.Returns OnHttps (selectProtocol env url) := by
  intro h u h' hr hok
  unfold selectProtocol at hr
  rw [if_pos (rfind_eq_some_zero hurl)] at hr
  split_ifs at hr with hp
  · obtain ⟨_, h₁, h₁ok, hmod⟩ := Cpp.bind_eq_ok hr
    cases hmod
    exact ⟨rfl, fun _ => setSslVerification_tlsOn env _ _ h₁ h₁ok⟩
  · cases hr
    exact ⟨not_not.mp hp, hok⟩

theorem setUrl_tlsKept (url : List Char) : Cpp.Keeps TlsKept (setUrl env url) :=
  .bind tlsKept_trans (selectProtocol_tlsKept env url) fun _ =>
    (setUrlImpl_untouched env url).mono tlsKept_of_untouched

theorem setUrl_onHttps {url : List Char} (hurl : "https://".toList <+: url) :
    Cpp.Returns OnHttps (setUrl env url) :=
  (selectProtocol_onHttps env hurl).bind_keeps (fun _ => setUrlImpl_untouched env url)
    OnHttps.of_untouched

theorem build_tlsOk {meth : HttpMethod} {body : Cpp HTTPConnection Unit}
    (hbody : Cpp.Keeps TlsKept body) {h : HTTPConnection} (hb : build env meth body = .ok h) :
    h.TlsOk := by
  unfold build at hb
  split at hb
  · cases hb
  · split at hb
    · cases hb
      exact hbody.of_ok ‹_› fun hs => Protocol.noConfusion hs
    · cases hb

theorem ctorBody_untouched (meth : HttpMethod) : Cpp.Keeps TlsUntouched (ctorBody env meth) :=
  .bind tlsUntouched_trans (setMethod_untouched env meth) fun _ =>
    .bind tlsUntouched_trans (setOption_untouched env (by decide) (by decide) _) fun _ =>
      setOption_untouched env (by decide) (by decide) _

end HTTPConnection

open HTTPConnection

namespace SharedHTTPConnection

variable (env : Env)

theorem pushRequest_eq_setUrl_bind (fe : SharedHTTPConnection) :
    ∃ rest : Unit → Cpp HTTPConnection Unit,
      pushRequest env fe = (HTTPConnection.setUrl env fe.url >>= rest) ∧
      ∀ u, Cpp.Keeps TlsUntouched (rest u) := by
  refine ⟨_, rfl, fun _ => ?_⟩
  refine .bind tlsUntouched_trans (lift_untouched (resetHeaders_optionKept _)
    (resetHeaders_optionKept _)) fun _ => .bind tlsUntouched_trans ?_ fun _ =>
      .bind tlsUntouched_trans (setMethod_untouched env _) fun _ => ?_
  · split_ifs
    · exact .pure tlsUntouched_refl _
    · exact lift_untouched (addHeaders_optionKept env _ (by decide) _)
        (addHeaders_optionKept env _ (by decide) _)
  · split_ifs
    · exact lift_untouched (setFields_optionKept env _ (by decide) _)
        (setFields_optionKept env _ (by decide) _)
    · exact .pure tlsUntouched_refl _

theorem pushRequest_tlsKept (fe : SharedHTTPConnection) :
    Cpp.Keeps TlsKept (pushRequest env fe) := by
  obtain ⟨rest, hpush, hrest⟩ := pushRequest_eq_setUrl_bind env fe
  rw [hpush]
  exact .bind tlsKept_trans (setUrl_tlsKept env _) fun u => (hrest u).mono tlsKept_of_untouched

theorem pushRequest_onHttps {fe : SharedHTTPConnection} (hurl : "https://".toList <+: fe.url) :
    Cpp.Returns OnHttps (pushRequest env fe) := by
  obtain ⟨rest, hpush, hrest⟩ := pushRequest_eq_setUrl_bind env fe
  rw [hpush]
  exact (setUrl_onHttps env hurl).bind_keeps hrest OnHttps.of_untouched

/-- What `execute` runs on the connection after the push, up to `curl_easy_perform` and
with it, sets neither verification option. -/
theorem execute_optionKept {o : CURLoption} (ho : o = .sslVerifyPeer ∨ o = .sslVerifyHost)
    (timeout : Int) (b : Bool) :
    Cpp.Keeps (OptionKept o)
      (do CurlConnectionImpl.setTimeout env timeout; CurlConnectionImpl.prepare env b) ∧
    Cpp.Keeps (OptionKept o)
      (do CurlConnectionImpl.setTimeout env timeout; CurlConnectionImpl.execute env b) := by
  rcases ho with rfl | rfl <;>
    exact ⟨.bind (optionKept_trans _) (setOption_optionKept env _ (by decide) _) fun _ =>
        prepare_optionKept env _ (by decide) fun _ => by decide,
      .bind (optionKept_trans _) (setOption_optionKept env _ (by decide) _) fun _ =>
        .bind (optionKept_trans _) (prepare_optionKept env _ (by decide) fun _ => by decide)
          fun _ => CurlConnectionImpl.perform_keeps env (optionKept_refl _) b⟩

/-- The `execute` of a front-end whose URL begins with `https://`, on a connection that
verifies on `https`, reaches `curl_easy_perform` with peer and host verification on. -/
theorem atPerform_tlsOn {fe : SharedHTTPConnection} {b : Bool} {conn h : HTTPConnection}
    (hurl : "https://".toList <+: fe.url) (hok : conn.TlsOk)
    (hat : atPerform env fe b conn = some h) : h.impl.TlsOn := by
  unfold atPerform at hat
  split at hat
  · rename_i hrun
    cases hat
    obtain ⟨hp, htls⟩ := ((pushRequest_onHttps env hurl).bind_keeps (fun _ => lift_untouched
      (execute_optionKept env (.inl rfl) fe.timeout b).1
      (execute_optionKept env (.inr rfl) fe.timeout b).1) OnHttps.of_untouched) _ _ _ hrun hok
    exact htls hp
  · cases hat

theorem executeLocked_tlsKept (fe : SharedHTTPConnection) (b : Bool) :
    Cpp.Keeps (fun a a' => TlsKept a.2 a'.2) (executeLocked env fe b) := by
  have htrans : Transitive fun a a' : SharedHTTPConnection × HTTPConnection => TlsKept a.2 a'.2 :=
    fun _ _ _ h₁ h₂ => h₂ ∘ h₁
  exact .bind htrans (.focus_of (pushRequest_tlsKept env fe) fun _ _ h => h) fun _ =>
    .bind htrans (.modify fun _ h => h) fun _ => .focus_of ((lift_untouched
      (execute_optionKept env (.inl rfl) fe.timeout b).2
      (execute_optionKept env (.inr rfl) fe.timeout b).2).mono tlsKept_of_untouched) fun _ _ h => h

theorem reconfigure_tlsKept (url : List Char) (meth : HttpMethod) :
    Cpp.Keeps TlsKept (reconfigure env url meth) := by
  refine .bind tlsKept_trans ((setMethod_untouched env meth).mono tlsKept_of_untouched) fun _ => ?_
  split_ifs
  · exact .pure tlsKept_refl _
  · exact setUrl_tlsKept env url

theorem newConnection_tlsOk {url : List Char} {meth : HttpMethod} {conn : HTTPConnection}
    (h : newConnection env url meth = .ok conn) : conn.TlsOk := by
  unfold newConnection at h
  split_ifs at h
  · exact build_tlsOk env ((ctorBody_untouched env meth).mono tlsKept_of_untouched) h
  · exact build_tlsOk env (.bind tlsKept_trans ((ctorBody_untouched env meth).mono
      tlsKept_of_untouched) fun _ => setUrl_tlsKept env url) h

end SharedHTTPConnection

end CurlConnect

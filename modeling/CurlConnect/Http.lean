import CurlConnect.Curl.Headers
import CurlConnect.Url

/-!
`HTTPConnection`: a `CurlConnection` that also holds the protocol of its URL and its
method. Both constructors set the method, `gzip` encoding and TCP keepalive, and the
first also a URL. `set_url` tests the protocol with `rfind`; each time the URL turns
to `https` from another protocol it sets TLS verification up, against
`certificate_bundle_path` when that is set.

The header that declares the class is not in the source. `set_method` is modelled from
the spec, as the setter that keeps what `_set_method` returns.

The second half lists the exceptions each call can throw: none but `set_url` throws
`"invalid protocol in url: ..."`, and `set_url` only on a URL its test refuses.
-/

namespace CurlConnect

inductive Protocol where
  | none
  | http
  | https
  deriving DecidableEq, Repr

structure HTTPConnection where
  impl : CurlConnectionImpl
  proto : Protocol
  meth : HttpMethod

namespace HTTPConnection

def lift {α : Type} (x : Cpp CurlConnectionImpl α) : Cpp HTTPConnection α :=
  Cpp.focus impl (fun h c => { h with impl := c }) x

theorem lift_eq_ok {α : Type} {x : Cpp CurlConnectionImpl α} {h h' : HTTPConnection} {a : α}
    (hok : lift x h = .ok a h') : ∃ c', x h.impl = .ok a c' ∧ h' = { h with impl := c' } := by
  simp only [lift, Cpp.focus] at hok
  split at hok <;> cases hok
  exact ⟨_, ‹_›, rfl⟩

variable (env : Env)

/-- `_set_method`: the option that selects each method; any other value throws. -/
def _setMethod : HttpMethod → Cpp HTTPConnection HttpMethod
  | .httpGet => do
      lift (CurlConnectionImpl.setOption env .httpGet (.long 1))
      pure .httpGet
  | .httpPost => do
      lift (CurlConnectionImpl.setOption env .post (.long 1))
      pure .httpPost
  | .httpDelete => do
      lift (CurlConnectionImpl.setOption env .customRequest (.str "DELETE".toList))
      pure .httpDelete
  | .httpPut => do
      lift (CurlConnectionImpl.setOption env .customRequest (.str "PUT".toList))
      pure .httpPut
  | .other _ => throw (.runtime "invalid HttpMethod".toList)

/-- Modelled from the spec: `set_method`, declared in the header that is not in the
source, keeps the method `_set_method` accepts. -/
def setMethod (meth : HttpMethod) : Cpp HTTPConnection Unit := do
  let m ← _setMethod env meth
  modify fun h => { h with meth := m }

/-- The TLS set-up of `set_url`: `SET_ssl_verify(true)`, or verification against
`certificate_bundle_path` when that is set. -/
def setSslVerification : Cpp HTTPConnection Unit :=
  if env.certificateBundlePath.isEmpty then lift (CurlConnectionImpl.setSslVerify env true)
  else lift (CurlConnectionImpl.setSslVerifyUsingCaBundle env env.certificateBundlePath)

/-- The protocol test of `set_url`, with the TLS set-up when the URL turns to `https`. -/
def selectProtocol (url : List Char) : Cpp HTTPConnection Unit := fun h =>
  if rfind url "https://".toList 0 = some 0 then
    if h.proto ≠ .https then
      (do setSslVerification env; modify fun (h : HTTPConnection) => { h with proto := .https }) h
    else .ok () h
  else if rfind url "http://".toList 0 = some 0 then .ok () { h with proto := .http }
  else .error (.invalidProtocol url) h

/-- `set_url`. -/
def setUrl (url : List Char) : Cpp HTTPConnection Unit := do
  selectProtocol env url
  lift (CurlConnectionImpl.setUrl env url)

/-- What both constructors do after `CurlConnection()`: `_meth(_set_method(meth))`,
then `set_encoding(DEFAULT_ENCODING)` and `set_keepalive(true)`. -/
def ctorBody (meth : HttpMethod) : Cpp HTTPConnection Unit := do
  setMethod env meth
  lift (CurlConnectionImpl.setEncoding env "gzip".toList)
  lift (CurlConnectionImpl.setKeepalive env true)

/-- A constructor: `CurlConnection()`, `_proto(Protocol::none)`, then `body`; a throw
leaves no object. -/
def build (meth : HttpMethod) (body : Cpp HTTPConnection Unit) :
    Except CurlException HTTPConnection :=
  match CurlConnectionImpl.new env with
  | .error e => .error e
  | .ok c =>
      match body { impl := c, proto := .none, meth := meth } with
      | .ok _ h => .ok h
      | .error e _ => .error e

/-- `HTTPConnection(url, meth)`. -/
def new (url : List Char) (meth : HttpMethod) : Except CurlException HTTPConnection :=
  build env meth (do ctorBody env meth; setUrl env url)

/-- `HTTPConnection(meth)`. -/
def newMethod (meth : HttpMethod) : Except CurlException HTTPConnection :=
  build env meth (ctorBody env meth)

theorem setUrl_invalid {url : List Char} (hbad : httpProtocolOk url = false)
    (h : HTTPConnection) : setUrl env url h = .error (.invalidProtocol url) h := by
  simp only [httpProtocolOk, Bool.or_eq_false_iff, beq_eq_false_iff_ne, ne_eq] at hbad
  simp only [setUrl, selectProtocol, Cpp.bind_apply, hbad.1, hbad.2, if_false]

theorem setUrl_protocolOk {url : List Char} {h h' : HTTPConnection}
    (hok : setUrl env url h = .ok () h') : httpProtocolOk url = true := by
  cases hp : httpProtocolOk url
  · rw [setUrl_invalid env hp] at hok; cases hok
  · rfl

theorem new_protocolOk {url : List Char} {meth : HttpMethod} {h : HTTPConnection}
    (hnew : new env url meth = .ok h) : httpProtocolOk url = true := by
  unfold new build at hnew
  split at hnew
  · cases hnew
  · split at hnew
    · rename_i hbody
      rw [Cpp.bind_apply] at hbody
      split at hbody
      · exact setUrl_protocolOk env hbody
      · cases hbody
    · cases hnew

/-- The option `_set_method` sets for each method, with its value. -/
def methodSetting : HttpMethod → List (CURLoption × OptVal)
  | .httpGet => [(.httpGet, .long 1)]
  | .httpPost => [(.post, .long 1)]
  | .httpDelete => [(.customRequest, .str "DELETE".toList)]
  | .httpPut => [(.customRequest, .str "PUT".toList)]
  | .other _ => []

theorem setMethod_sets {meth : HttpMethod} {h h' : HTTPConnection}
    (hok : setMethod env meth h = .ok () h') :
    ∀ p ∈ methodSetting meth, h'.impl.handle.bind (· p.1) = some p.2 := by
  obtain ⟨_, h₁, hm, hmod⟩ := Cpp.bind_eq_ok hok
  cases hmod
  cases meth
  case other => simp [methodSetting]
  all_goals
    obtain ⟨_, h₂, hset, hpure⟩ := Cpp.bind_eq_ok hm
    cases hpure
    obtain ⟨c, hc, rfl⟩ := lift_eq_ok hset
    simpa [methodSetting] using CurlConnectionImpl.setOption_value env hc

end HTTPConnection

section Raises

open CurlException

theorem CurlException.option_notInvalidProtocol (what : List Char) (o : CURLoption)
    (v : List Char) : (CurlException.option what o v).NotInvalidProtocol := by
  intro url h; cases h

theorem CurlException.connection_notInvalidProtocol (code : Int) (what : List Char) :
    (CurlException.connection code what).NotInvalidProtocol := by
  intro url h; cases h

theorem CurlException.runtime_notInvalidProtocol (what : List Char) :
    (CurlException.runtime what).NotInvalidProtocol := by
  intro url h; cases h

variable (env : Env)

namespace CurlConnectionImpl

theorem setOption_raises (o : CURLoption) (v : OptVal) :
    Cpp.Raises NotInvalidProtocol (setOption env o v) := by
  intro c e c' h
  unfold setOption at h
  split at h
  · cases h; exact handleClosed_notInvalidProtocol
  · split at h
    · cases h
    · cases h; exact option_notInvalidProtocol _ _ _

theorem setOption₂_raises (o₁ o₂ : CURLoption) (v₁ v₂ : OptVal) :
    Cpp.Raises NotInvalidProtocol (do setOption env o₁ v₁; setOption env o₂ v₂) :=
  .bind (setOption_raises env o₁ v₁) fun _ => setOption_raises env o₂ v₂

theorem appendHeaders_raises (hs : List (List Char × List Char)) :
    Cpp.Raises NotInvalidProtocol (appendHeaders env hs) := by
  induction hs with
  | nil => exact .pure ()
  | cons x hs ih =>
    intro c e c' h
    simp only [appendHeaders] at h
    split_ifs at h
    · cases h; exact option_notInvalidProtocol _ _ _
    · exact ih _ _ _ h

theorem addHeaders_raises (hs : List (List Char × List Char)) :
    Cpp.Raises NotInvalidProtocol (addHeaders env hs) := by
  intro c e c' h
  unfold addHeaders at h
  split_ifs at h
  · cases h; exact handleClosed_notInvalidProtocol
  · exact (appendHeaders_raises env hs).bind (fun _ => Cpp.Raises.get.bind
      fun c => setOption_raises env .httpHeader (.ptr c.header)) c e c' h

theorem setFieldsText_raises (fields : List Char) :
    Cpp.Raises NotInvalidProtocol (setFieldsText env fields) := by
  intro c e c' h
  unfold setFieldsText at h
  split_ifs at h
  · cases h; exact handleClosed_notInvalidProtocol
  · exact setOption_raises env _ _ c e c' h

theorem execute_raises (b : Bool) : Cpp.Raises NotInvalidProtocol (execute env b) := by
  refine Cpp.Raises.bind (fun c e c' h => ?_) fun _ c e c' h => ?_
  · unfold prepare at h
    split_ifs at h
    · cases h; exact handleClosed_notInvalidProtocol
    · exact ((setOption_raises env _ _).bind fun _ => (setOption_raises env _ _).bind
        fun _ => setOption₂_raises env _ _ _ _) _ e c' h
    · exact ((setOption_raises env _ _).bind fun _ => (setOption_raises env _ _).bind
        fun _ => .pure _) _ e c' h
  · unfold perform at h
    split at h
    · cases h; exact handleClosed_notInvalidProtocol
    · split at h
      · cases h; exact connection_notInvalidProtocol _ _
      · cases h

end CurlConnectionImpl

namespace HTTPConnection

theorem _setMethod_raises (meth : HttpMethod) :
    Cpp.Raises NotInvalidProtocol (_setMethod env meth) := by
  cases meth with
  | other v => intro h e h' hr; cases hr; exact runtime_notInvalidProtocol _
  | _ => exact (CurlConnectionImpl.setOption_raises env _ _).focus.bind fun _ => .pure _

theorem setMethod_raises (meth : HttpMethod) :
    Cpp.Raises NotInvalidProtocol (setMethod env meth) :=
  (_setMethod_raises env meth).bind fun _ => .modify _

theorem setUrl_raises {url : List Char} (hok : httpProtocolOk url = true) :
    Cpp.Raises NotInvalidProtocol (setUrl env url) := by
  refine Cpp.Raises.bind (fun h e h' hr => ?_)
    fun _ => (CurlConnectionImpl.setOption₂_raises env _ _ _ _).focus
  simp only [httpProtocolOk, Bool.or_eq_true, beq_iff_eq] at hok
  unfold selectProtocol at hr
  split_ifs at hr with hs hp hh
  · refine ((?_ : Cpp.Raises _ (setSslVerification env)).bind fun _ => .modify _) h e h' hr
    unfold setSslVerification
    split
    · exact (CurlConnectionImpl.setOption₂_raises env _ _ _ _).focus
    · exact ((CurlConnectionImpl.setOption₂_raises env _ _ _ _).bind
        fun _ => CurlConnectionImpl.setOption_raises env _ _).focus
  · simp_all

end HTTPConnection

end Raises

end CurlConnect

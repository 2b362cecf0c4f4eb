import CurlConnect.Http

/-!
The request parameters a `SharedHTTPConnection` keeps for itself, and the part of
`execute` that runs under the entry mutex: the parameters are pushed onto the shared
`HTTPConnection` (`set_url`, `reset_headers`, `add_headers`, `set_method`, `set_fields`),
the pending fields are cleared, the timeout is set, and the connection executes.

The header that declares the class is not in the source. Its local setters
(`set_method`, `add_headers`, `set_fields`, `set_timeout`) are modelled from the spec as
one call that may leave the four pending values at anything.

When `curl_easy_perform` runs, each option the push and `execute` set holds the value the
front-end gives it: the URL, the option of the method, a header list of exactly its
headers, the body, the timeout (`atPerform_sets_request_options`). But the push only sets
the options a request has: nothing unsets what an earlier request left on the shared
handle (`atPerform_keeps_other_options`). After a request with a body,
the next request on the same handle performs with `CURLOPT_COPYPOSTFIELDS` still holding
that body; after a `DELETE`, a `GET` keeps `CURLOPT_CUSTOMREQUEST`; and after a request
with headers, `CURLOPT_HTTPHEADER` still points at the list `reset_headers` has freed.
-/

namespace CurlConnect

/-- The members `_is_open`, `_url`, `_meth`, `_headers`, `_fields`, `_timeout` and `_id`
(the context id). -/
structure SharedHTTPConnection where
  isOpen : Bool
  url : List Char
  meth : HttpMethod
  headers : List (List Char × List Char)
  fields : List (List Char × List Char)
  timeout : Int
  id : Int
  deriving DecidableEq, Repr

namespace SharedHTTPConnection

/-- `operator==`: all seven members. -/
def beq (a b : SharedHTTPConnection) : Bool :=
  a.isOpen == b.isOpen && a.url == b.url && a.meth == b.meth && a.headers == b.headers &&
    a.fields == b.fields && a.timeout == b.timeout && a.id == b.id

theorem beq_iff {a b : SharedHTTPConnection} : a.beq b = true ↔ a = b := by
  cases a; cases b; simp [beq, and_assoc]

/-- `set_url`: the URL is kept when `PROTO_RX` matches at its start. -/
def setUrl (url : List Char) : Cpp SharedHTTPConnection Unit := fun fe =>
  if matchPrefix protoRx url then .ok () { fe with url := url }
  else .error (.invalidProtocol url) fe

/-- Modelled from the spec: the local setters `set_method`, `add_headers`, `set_fields`
and `set_timeout`, which change only the pending method, headers, fields and timeout. -/
def setPending (meth : HttpMethod) (headers fields : List (List Char × List Char))
    (timeout : Int) (fe : SharedHTTPConnection) : SharedHTTPConnection :=
  { fe with meth := meth, headers := headers, fields := fields, timeout := timeout }

variable (env : Env)

/-- The parameters of `fe` pushed onto the shared connection. -/
def pushRequest (fe : SharedHTTPConnection) : Cpp HTTPConnection Unit := do
  HTTPConnection.setUrl env fe.url
  HTTPConnection.lift (modify CurlConnectionImpl.resetHeaders)
  (if fe.headers.isEmpty then pure ()
   else HTTPConnection.lift (CurlConnectionImpl.addHeaders env fe.headers))
  HTTPConnection.setMethod env fe.meth
  (if fe.meth ≠ .httpGet ∧ fe.fields ≠ [] then
     HTTPConnection.lift (CurlConnectionImpl.setFields env fe.fields)
   else pure ())

def onConn {α : Type} (x : Cpp HTTPConnection α) : Cpp (SharedHTTPConnection × HTTPConnection) α :=
  Cpp.focus Prod.snd (fun s c => (s.1, c)) x

/-- The part of `execute` under the entry mutex, on the front-end and the shared
connection; `fe` is the front-end as it starts. -/
def executeLocked (fe : SharedHTTPConnection) (b : Bool) :
    Cpp (SharedHTTPConnection × HTTPConnection) (Int × List Char × List Char) := do
  onConn (pushRequest env fe)
  modify fun s => ({ s.1 with fields := [] }, s.2)
  onConn (HTTPConnection.lift do
    CurlConnectionImpl.setTimeout env fe.timeout
    CurlConnectionImpl.execute env b)

/-- The part of `execute` under the entry mutex up to `curl_easy_perform`. -/
def executePrepared (fe : SharedHTTPConnection) (b : Bool) :
    Cpp (SharedHTTPConnection × HTTPConnection) Unit := do
  onConn (pushRequest env fe)
  modify fun s => ({ s.1 with fields := [] }, s.2)
  onConn (HTTPConnection.lift do
    CurlConnectionImpl.setTimeout env fe.timeout
    CurlConnectionImpl.prepare env b)

theorem executeLocked_eq (fe : SharedHTTPConnection) (b : Bool) :
    executeLocked env fe b =
      executePrepared env fe b >>= fun _ =>
        onConn (HTTPConnection.lift (CurlConnectionImpl.perform env b)) := by
  funext st
  simp only [executeLocked, executePrepared, CurlConnectionImpl.execute, onConn,
    HTTPConnection.lift, Cpp.focus, Cpp.bind_apply, Cpp.modify_apply]
  cases pushRequest env fe st.2 with
  | error => rfl
  | ok _ h =>
    dsimp only
    cases CurlConnectionImpl.setTimeout env fe.timeout h.impl with
    | error => rfl
    | ok _ c => dsimp only; cases CurlConnectionImpl.prepare env b c <;> rfl

theorem perform_stateOf (b : Bool) (c : CurlConnectionImpl) :
    Cpp.stateOf (CurlConnectionImpl.perform env b c) = c := by
  unfold CurlConnectionImpl.perform
  split
  · rfl
  · split <;> rfl

/-- `curl_easy_perform` changes neither the front-end nor the connection. -/
theorem stateOf_executeLocked (fe : SharedHTTPConnection) (b : Bool)
    (st : SharedHTTPConnection × HTTPConnection) :
    Cpp.stateOf (executeLocked env fe b st) = Cpp.stateOf (executePrepared env fe b st) := by
  rw [executeLocked_eq, Cpp.bind_apply]
  cases executePrepared env fe b st with
  | error => rfl
  | ok _ st' =>
    have h := perform_stateOf env b st'.2.impl
    simp only [onConn, HTTPConnection.lift, Cpp.focus]
    generalize CurlConnectionImpl.perform env b st'.2.impl = r at h
    cases r <;> (simp only [Cpp.stateOf] at h ⊢; subst h; rfl)

theorem keeps_executePrepared {R : SharedHTTPConnection × HTTPConnection →
    SharedHTTPConnection × HTTPConnection → Prop} {fe : SharedHTTPConnection} {b : Bool}
    (h : Cpp.Keeps R (executeLocked env fe b)) : Cpp.Keeps R (executePrepared env fe b) :=
  fun st => stateOf_executeLocked env fe b st ▸ h st

/-- The shared connection as `curl_easy_perform` finds it in `execute`, when every
call before it returns. -/
def atPerform (fe : SharedHTTPConnection) (b : Bool) (conn : HTTPConnection) :
    Option HTTPConnection :=
  match (do
      pushRequest env fe
      HTTPConnection.lift do
        CurlConnectionImpl.setTimeout env fe.timeout
        CurlConnectionImpl.prepare env b) conn with
  | .ok _ h => some h
  | .error _ _ => none

theorem atPerform_eq_some {fe : SharedHTTPConnection} {b : Bool} {conn h : HTTPConnection}
    (hat : atPerform env fe b conn = some h) :
    ∃ c c₁ c₂, pushRequest env fe conn = .ok () c ∧
      CurlConnectionImpl.setTimeout env fe.timeout c.impl = .ok () c₁ ∧
      CurlConnectionImpl.prepare env b c₁ = .ok () c₂ ∧ h = { c with impl := c₂ } := by
  unfold atPerform at hat
  split at hat
  · rename_i hrun
    cases hat
    obtain ⟨_, c, hp, hlast⟩ := Cpp.bind_eq_ok hrun
    obtain ⟨c₂, hexec, rfl⟩ := HTTPConnection.lift_eq_ok hlast
    obtain ⟨_, c₁, ht, hpr⟩ := Cpp.bind_eq_ok hexec
    exact ⟨c, c₁, c₂, hp, ht, hpr, rfl⟩
  · cases hat

theorem executePrepared_of_atPerform {fe : SharedHTTPConnection} {b : Bool}
    {conn h : HTTPConnection} (hat : atPerform env fe b conn = some h) (g : SharedHTTPConnection) :
    executePrepared env fe b (g, conn) = .ok () ({ g with fields := [] }, h) := by
  obtain ⟨c, c₁, c₂, hp, ht, hpr, rfl⟩ := atPerform_eq_some env hat
  simp only [executePrepared, onConn, HTTPConnection.lift, Cpp.focus, Cpp.bind_apply,
    Cpp.modify_apply, hp, ht, hpr]

/-- `curl_easy_perform` runs on the connection `atPerform` gives, after the front-end's
fields are cleared. -/
theorem executeLocked_perform {fe g : SharedHTTPConnection} {b : Bool}
    {conn h : HTTPConnection} (hat : atPerform env fe b conn = some h) :
    executeLocked env fe b (g, conn) =
      match HTTPConnection.lift (CurlConnectionImpl.perform env b) h with
      | .ok r h' => .ok r ({ g with fields := [] }, h')
      | .error e h' => .error e ({ g with fields := [] }, h') := by
  rw [executeLocked_eq, Cpp.bind_apply, executePrepared_of_atPerform env hat]
  simp only [onConn, Cpp.focus]
  cases HTTPConnection.lift (CurlConnectionImpl.perform env b) h <;> rfl

def FieldsOnly (a b : SharedHTTPConnection × HTTPConnection) : Prop :=
  ∃ fields, b.1 = { a.1 with fields := fields }

theorem fieldsOnly_refl : Reflexive FieldsOnly := fun a => ⟨a.1.fields, rfl⟩

theorem fieldsOnly_trans : Transitive FieldsOnly := by
  rintro a b c ⟨f₁, h₁⟩ ⟨f₂, h₂⟩
  exact ⟨f₂, by rw [h₂, h₁]⟩

theorem executeLocked_keeps (fe : SharedHTTPConnection) (b : Bool) :
    Cpp.Keeps FieldsOnly (executeLocked env fe b) :=
  .bind fieldsOnly_trans (.focus fun _ _ => fieldsOnly_refl _) fun _ =>
    .bind fieldsOnly_trans (.modify fun _ => ⟨[], rfl⟩) fun _ =>
      .focus fun _ _ => fieldsOnly_refl _

/-- The value the handle holds for `o` when `curl_easy_perform` runs in the `execute`
of `fe`, if every call before it returns. -/
def optionAtPerform (fe : SharedHTTPConnection) (b : Bool) (conn : HTTPConnection)
    (o : CURLoption) : Option OptVal :=
  (atPerform env fe b conn).bind fun h => h.impl.handle.bind (· o)

/-- A front-end on context `7` that posts the body `a=1`. -/
def samplePost : SharedHTTPConnection :=
  { isOpen := true, url := "https://h".toList, meth := .httpPost, headers := [],
    fields := [("a".toList, "1".toList)], timeout := 0, id := 7 }

/-- The execute of a front-end with no pending fields does not send an empty body when
an earlier execute on the same connection sent one: from a new connection its
`curl_easy_perform` finds no `CURLOPT_COPYPOSTFIELDS`, after `samplePost` has executed
it finds `a=1`, with the same pending parameters both times. -/
theorem executeLocked_resends_consumed_fields :
    (HTTPConnection.new Env.accepting samplePost.url samplePost.meth).toOption.map
      (fun conn₀ =>
        (optionAtPerform Env.accepting { samplePost with fields := [] } false conn₀
           .copyPostFields,
         optionAtPerform Env.accepting { samplePost with fields := [] } false
           (Cpp.stateOf (executeLocked Env.accepting samplePost false (samplePost, conn₀))).2
           .copyPostFields)) =
      some (none, some (.str "a=1".toList)) := by
  decide

section Leftovers

variable (o : CURLoption)

def OptionKept (c c' : CurlConnectionImpl) : Prop := c'.handle.bind (· o) = c.handle.bind (· o)

def ImplOptionKept (h h' : HTTPConnection) : Prop := OptionKept o h.impl h'.impl

theorem optionKept_refl : Reflexive (OptionKept o) := fun _ => rfl

theorem optionKept_trans : Transitive (OptionKept o) := fun _ _ _ h₁ h₂ => h₂.trans h₁

theorem implOptionKept_refl : Reflexive (ImplOptionKept o) := fun _ => rfl

theorem implOptionKept_trans : Transitive (ImplOptionKept o) :=
  fun _ _ _ h₁ h₂ => h₂.trans h₁

/-- The options `_set_method` sets for a method. -/
def methodOptions : HttpMethod → List CURLoption
  | .httpGet => [.httpGet]
  | .httpPost => [.post]
  | .httpDelete | .httpPut => [.customRequest]
  | .other _ => []

/-- The options the `execute` of `fe` with `return_header_data = b` may set before
`curl_easy_perform`: the URL and TLS options of `set_url`, the header list when `fe` has
headers, the method, the body when `set_fields` runs, the timeout, and the callbacks. -/
def requestOptions (fe : SharedHTTPConnection) (b : Bool) : List CURLoption :=
  [.url, .sslOptions, .sslVerifyPeer, .sslVerifyHost, .caInfo, .timeoutMs, .writeFunction,
    .writeData] ++ (if fe.headers.isEmpty then [] else [.httpHeader]) ++ methodOptions fe.meth ++
    (if fe.meth ≠ .httpGet ∧ fe.fields ≠ [] then [.copyPostFields] else []) ++
    (if b then [.headerFunction, .headerData] else [])

theorem setOption_optionKept {o' : CURLoption} (h : o' ≠ o) (v : OptVal) :
    Cpp.Keeps (OptionKept o) (CurlConnectionImpl.setOption env o' v) := by
  intro c
  simp only [OptionKept, CurlConnectionImpl.setOption]
  split
  · rfl
  · split <;> simp_all [Function.update_noteq (Ne.symm h),
      CurlConnectionImpl.refusedHandle_of_ne _ _ (Ne.symm h)]

theorem setOption₂_optionKept {o₁ o₂ : CURLoption} (h₁ : o₁ ≠ o) (h₂ : o₂ ≠ o)
    (v₁ v₂ : OptVal) :
    Cpp.Keeps (OptionKept o)
      (do CurlConnectionImpl.setOption env o₁ v₁; CurlConnectionImpl.setOption env o₂ v₂) :=
  .bind (optionKept_trans o) (setOption_optionKept env o h₁ v₁) fun _ =>
    setOption_optionKept env o h₂ v₂

theorem lift_optionKept {α : Type} {x : Cpp CurlConnectionImpl α}
    (hx : Cpp.Keeps (OptionKept o) x) : Cpp.Keeps (ImplOptionKept o) (HTTPConnection.lift x) :=
  Cpp.Keeps.focus_of hx fun _ _ h => h

theorem setUrl_optionKept (url : List Char)
    (hne : ∀ o' ∈ [CURLoption.url, .sslOptions, .sslVerifyPeer, .sslVerifyHost, .caInfo],
      o' ≠ o) :
    Cpp.Keeps (ImplOptionKept o) (HTTPConnection.setUrl env url) := by
  simp only [List.mem_cons, List.mem_singleton, List.not_mem_nil, or_false, forall_eq_or_imp,
    forall_eq] at hne
  obtain ⟨hu, hs, hp, hh, hc⟩ := hne
  refine .bind (implOptionKept_trans o) (fun h₀ => ?_) fun _ =>
    lift_optionKept o (setOption₂_optionKept env o hu hs _ _)
  have hssl : Cpp.Keeps (ImplOptionKept o) (HTTPConnection.setSslVerification env) := by
    unfold HTTPConnection.setSslVerification CurlConnectionImpl.setSslVerifyUsingCaBundle
      CurlConnectionImpl.setSslVerify
    split
    · exact lift_optionKept o (setOption₂_optionKept env o hp hh _ _)
    · exact lift_optionKept o (.bind (optionKept_trans o) (setOption₂_optionKept env o hp hh _ _)
        fun _ => setOption_optionKept env o hc _)
  unfold HTTPConnection.selectProtocol
  split_ifs
  · refine (Cpp.Keeps.bind (implOptionKept_trans o) hssl fun _ => ?_) h₀
    exact Cpp.Keeps.modify fun _ => rfl
  all_goals rfl

theorem resetHeaders_optionKept :
    Cpp.Keeps (OptionKept o)
      (modify CurlConnectionImpl.resetHeaders : Cpp CurlConnectionImpl PUnit) :=
  .modify fun c => by
    simp only [OptionKept, CurlConnectionImpl.resetHeaders, CurlConnectionImpl.slistFreeAll]
    split_ifs <;> rfl

theorem appendHeaders_handle (hs : List (List Char × List Char)) (c : CurlConnectionImpl) :
    (Cpp.stateOf (CurlConnectionImpl.appendHeaders env hs c)).handle = c.handle := by
  induction hs generalizing c with
  | nil => rfl
  | cons x hs ih =>
    simp only [CurlConnectionImpl.appendHeaders]
    have hnew : (CurlConnectionImpl.slistAppend env c c.header
        (cStr (x.1 ++ ": ".toList ++ x.2))).2.handle = c.handle := by
      unfold CurlConnectionImpl.slistAppend; split_ifs <;> rfl
    split_ifs
    · exact hnew
    · rw [ih]; exact hnew

theorem addHeaders_optionKept (h : CURLoption.httpHeader ≠ o)
    (hs : List (List Char × List Char)) :
    Cpp.Keeps (OptionKept o) (CurlConnectionImpl.addHeaders env hs) := by
  intro c
  unfold CurlConnectionImpl.addHeaders
  split_ifs
  · rfl
  · rfl
  · have happ : Cpp.Keeps (OptionKept o) (CurlConnectionImpl.appendHeaders env hs) :=
      fun c₀ => by simp only [OptionKept, appendHeaders_handle]
    exact (Cpp.Keeps.bind (optionKept_trans o) happ fun _ => Cpp.Keeps.bind (optionKept_trans o)
      (Cpp.Keeps.get (optionKept_refl o)) fun _ => setOption_optionKept env o h _) c

theorem setMethod_optionKept {meth : HttpMethod} (h : o ∉ methodOptions meth) :
    Cpp.Keeps (ImplOptionKept o) (HTTPConnection.setMethod env meth) := by
  have hset : ∀ o' v, o' ≠ o → ∀ m : HttpMethod, Cpp.Keeps (ImplOptionKept o)
      (do HTTPConnection.lift (CurlConnectionImpl.setOption env o' v); pure m) := fun o' v ho m =>
    .bind (implOptionKept_trans o) (lift_optionKept o (setOption_optionKept env o ho v)) fun _ =>
      .pure (implOptionKept_refl o) _
  refine .bind (implOptionKept_trans o) ?_ fun _ => .modify fun _ => rfl
  cases meth <;> simp only [methodOptions, List.mem_singleton, List.not_mem_nil] at h
  case other => exact fun _ => rfl
  all_goals exact hset _ _ (Ne.symm h) _

theorem setFields_optionKept (h : CURLoption.copyPostFields ≠ o)
    (fields : List (List Char × List Char)) :
    Cpp.Keeps (OptionKept o) (CurlConnectionImpl.setFields env fields) := by
  intro c
  unfold CurlConnectionImpl.setFields CurlConnectionImpl.setFieldsText
  split_ifs
  · rfl
  · rfl
  · exact setOption_optionKept env o h _ c

theorem prepare_optionKept {b : Bool}
    (hne : ∀ o' ∈ [CURLoption.writeFunction, .writeData], o' ≠ o)
    (hb : b = true → ∀ o' ∈ [CURLoption.headerFunction, .headerData], o' ≠ o) :
    Cpp.Keeps (OptionKept o) (CurlConnectionImpl.prepare env b) := by
  simp only [List.mem_cons, List.mem_singleton, List.not_mem_nil, or_false, forall_eq_or_imp,
    forall_eq] at hne hb
  intro c
  unfold CurlConnectionImpl.prepare
  split_ifs with hc hbt
  · rfl
  · exact (Cpp.Keeps.bind (optionKept_trans o) (setOption_optionKept env o hne.1 _) fun _ =>
      .bind (optionKept_trans o) (setOption_optionKept env o hne.2 _) fun _ =>
        setOption₂_optionKept env o (hb hbt).1 (hb hbt).2 _ _) _
  · exact (Cpp.Keeps.bind (optionKept_trans o) (setOption_optionKept env o hne.1 _) fun _ =>
      .bind (optionKept_trans o) (setOption_optionKept env o hne.2 _) fun _ =>
        .pure (optionKept_refl o) _) _

/-- What `execute` leaves alone: when `curl_easy_perform` runs, every option outside
`requestOptions fe b` holds what the handle held before, whatever an earlier request on
the shared connection set there. -/
theorem atPerform_keeps_other_options {fe : SharedHTTPConnection} {b : Bool}
    {conn h : HTTPConnection} (hat : atPerform env fe b conn = some h)
    (ho : o ∉ requestOptions fe b) : OptionKept o conn.impl h.impl := by
  have hne : ∀ o' ∈ requestOptions fe b, o' ≠ o := fun o' h' he => ho (he ▸ h')
  have hsub : ∀ l : List CURLoption, (∀ o' ∈ l, o' ∈ requestOptions fe b) →
      ∀ o' ∈ l, o' ≠ o :=
    fun _ hl o' h' => hne o' (hl o' h')
  have hrun : Cpp.Keeps (ImplOptionKept o) (do
      pushRequest env fe
      HTTPConnection.lift do
        CurlConnectionImpl.setTimeout env fe.timeout
        CurlConnectionImpl.prepare env b) := by
    refine .bind (implOptionKept_trans o) ?_ fun _ => lift_optionKept o <|
      .bind (optionKept_trans o) (setOption_optionKept env o (hne _ (by simp [requestOptions])) _)
        fun _ => prepare_optionKept env o (hsub _ (by simp [requestOptions]))
          fun hb => hsub _ (by simp [requestOptions, hb])
    refine .bind (implOptionKept_trans o)
      (setUrl_optionKept env o _ (hsub _ (by simp [requestOptions]))) fun _ => ?_
    refine .bind (implOptionKept_trans o) (lift_optionKept o (resetHeaders_optionKept o))
      fun _ => ?_
    refine .bind (implOptionKept_trans o) ?_ fun _ => .bind (implOptionKept_trans o)
      (setMethod_optionKept env o fun h' => hne o (by simp [requestOptions, h']) rfl) fun _ => ?_
    · split_ifs with hh
      · exact .pure (implOptionKept_refl o) _
      · exact lift_optionKept o
          (addHeaders_optionKept env o (hne _ (by simp [requestOptions, hh])) _)
    · split_ifs with hf
      · exact lift_optionKept o
          (setFields_optionKept env o (hne _ (by simp [requestOptions, hf])) _)
      · exact .pure (implOptionKept_refl o) _
  unfold atPerform at hat
  split at hat
  · rename_i hok
    cases hat
    exact hrun.of_ok hok
  · cases hat

def samplePosted : HTTPConnection :=
  (Cpp.stateOf (executeLocked Env.accepting samplePost false
    (samplePost, ⟨CurlConnectionImpl.initial Env.accepting, .none, .httpPost⟩))).2

theorem atPerform_keeps_other_options_samplePosted :
    ∃ h, atPerform Env.accepting { samplePost with fields := [] } false samplePosted = some h ∧
      OptionKept .copyPostFields samplePosted.impl h.impl := by
  obtain ⟨h, hat⟩ := Option.isSome_iff_exists.mp (by decide :
    (atPerform Env.accepting { samplePost with fields := [] } false samplePosted).isSome = true)
  exact ⟨h, hat, atPerform_keeps_other_options Env.accepting .copyPostFields hat (by decide)⟩

end Leftovers

section Sets

open CurlConnectionImpl

theorem setUrl_sets_url {url : List Char} {h h' : HTTPConnection}
    (hok : HTTPConnection.setUrl env url h = .ok () h') :
    h'.impl.handle.bind (· .url) = some (.str (cStr url)) := by
  obtain ⟨_, h₁, -, hset⟩ := Cpp.bind_eq_ok hok
  obtain ⟨c, hc, rfl⟩ := HTTPConnection.lift_eq_ok hset
  obtain ⟨_, c₁, hurl, hssl⟩ := Cpp.bind_eq_ok hc
  exact ((setOption_optionKept env _ (by decide) _).of_ok hssl).trans (setOption_value env hurl)

theorem setFields_sets {fields : List (List Char × List Char)} {c c' : CurlConnectionImpl}
    (hne : pairsToFieldsStr fields ≠ []) (hok : setFields env fields c = .ok () c') :
    c'.handle.bind (· .copyPostFields) = some (.str (cStr (pairsToFieldsStr fields))) := by
  unfold setFields setFieldsText at hok
  split_ifs at hok with hc he
  · exact absurd (List.isEmpty_iff.mp he) hne
  · exact setOption_value env hok

theorem setMethod_listsKept (meth : HttpMethod) :
    Cpp.Keeps (fun h h' : HTTPConnection => ListsKept h.impl h'.impl)
      (HTTPConnection.setMethod env meth) := by
  have hrefl : Reflexive fun h h' : HTTPConnection => ListsKept h.impl h'.impl :=
    fun h => listsKept_refl h.impl
  have htrans : Transitive fun h h' : HTTPConnection => ListsKept h.impl h'.impl :=
    fun _ _ _ h₁ h₂ => listsKept_trans h₁ h₂
  refine .bind htrans ?_ fun _ => .modify fun _ => listsKept_refl _
  cases meth
  case other => exact fun h => hrefl h
  all_goals
    exact .bind htrans (.focus_of (setOption_keeps env _ _) fun _ _ h => h) fun _ => .pure hrefl _

theorem methodOptions_subset {m : HttpMethod} {o : CURLoption} (h : o ∈ methodOptions m) :
    o ∈ [CURLoption.httpGet, .post, .customRequest] := by
  cases m <;> simp_all [methodOptions]

theorem methodSetting_not_mem {m : HttpMethod} {p : CURLoption × OptVal}
    (hp : p ∈ HTTPConnection.methodSetting m) :
    p.1 ∉ [CURLoption.copyPostFields, .timeoutMs, .writeFunction, .writeData, .headerFunction,
      .headerData] := by
  cases m <;> simp [HTTPConnection.methodSetting] at hp <;> subst hp <;> decide

/-- What a push of `fe` that returns leaves on the connection: the URL, the option of the
method, a header list of exactly `fe`'s headers with `CURLOPT_HTTPHEADER` on it when there
are any, and the body when `set_fields` runs on a non-empty one. -/
def Pushed (fe : SharedHTTPConnection) (c : CurlConnectionImpl) : Prop :=
  c.handle.bind (· .url) = some (.str (cStr fe.url)) ∧
    (∀ p ∈ HTTPConnection.methodSetting fe.meth, c.handle.bind (· p.1) = some p.2) ∧
    (fe.headers ≠ [] →
      c.handle.bind (· .httpHeader) = some (.ptr c.header) ∧ HeaderList c fe.headers) ∧
    (fe.meth ≠ .httpGet → pairsToFieldsStr fe.fields ≠ [] →
      c.handle.bind (· .copyPostFields) = some (.str (cStr (pairsToFieldsStr fe.fields))))

theorem Pushed.of_kept {fe : SharedHTTPConnection} {c c' : CurlConnectionImpl} (h : Pushed fe c)
    (hk : ∀ o ∉ [CURLoption.timeoutMs, .writeFunction, .writeData, .headerFunction,
      .headerData], OptionKept o c c')
    (hl : ListsKept c c') : Pushed fe c' := by
  obtain ⟨hurl, hmeth, hhead, hfields⟩ := h
  refine ⟨(hk _ (by decide)).trans hurl, fun p hp => ?_, fun hne => ?_,
    fun hm hf => (hk _ (by decide)).trans (hfields hm hf)⟩
  · exact (hk _ fun h' => methodSetting_not_mem hp (List.mem_cons_of_mem _ h')).trans (hmeth p hp)
  · obtain ⟨ho, hlist⟩ := hhead hne
    exact ⟨(hk _ (by decide)).trans (by rw [ho, hl.1]), hlist.of_kept hl⟩

theorem pushRequest_pushed {fe : SharedHTTPConnection} {conn c : HTTPConnection}
    (hpush : pushRequest env fe conn = .ok () c) : Pushed fe c.impl := by
  -- the connection after `set_url`, `reset_headers`, `add_headers` and `set_method`
  obtain ⟨_, c₁, hurl, h₁⟩ := Cpp.bind_eq_ok hpush
  obtain ⟨_, c₂, hreset, h₂⟩ := Cpp.bind_eq_ok h₁
  obtain ⟨_, c₃, hadd, h₃⟩ := Cpp.bind_eq_ok h₂
  obtain ⟨_, c₄, hmeth, hfields⟩ := Cpp.bind_eq_ok h₃
  obtain ⟨_, hr, rfl⟩ := HTTPConnection.lift_eq_ok hreset
  cases hr
  -- `set_fields` sets the body only and keeps the header list
  have kF : (∀ o, o ≠ .copyPostFields → OptionKept o c₄.impl c.impl) ∧
      ListsKept c₄.impl c.impl := by
    split_ifs at hfields
    · obtain ⟨_, hf, rfl⟩ := HTTPConnection.lift_eq_ok hfields
      exact ⟨fun o ho => (setFields_optionKept env o (Ne.symm ho) _).of_ok hf,
        (setFieldsText_keeps env _).of_ok hf⟩
    · cases hfields
      exact ⟨fun _ _ => rfl, listsKept_refl _⟩
  -- `set_method` sets the option of the method only, `add_headers` the header option only
  have kM : ∀ o ∉ [CURLoption.httpGet, .post, .customRequest],
      OptionKept o c₃.impl c₄.impl :=
    fun o ho => (setMethod_optionKept env o fun h => ho (methodOptions_subset h)).of_ok hmeth
  have kH : ∀ o, o ≠ .httpHeader → OptionKept o (resetHeaders c₁.impl) c₃.impl :=
    fun o ho => by
    split_ifs at hadd
    · cases hadd; rfl
    · obtain ⟨_, ha, rfl⟩ := HTTPConnection.lift_eq_ok hadd
      exact (addHeaders_optionKept env o (Ne.symm ho) _).of_ok ha
  refine ⟨?_, fun p hp => ?_, fun hne => ?_, fun hm hf => ?_⟩
  · exact (kF.1 _ (by decide)).trans ((kM _ (by decide)).trans ((kH _ (by decide)).trans
      ((resetHeaders_optionKept .url c₁.impl).trans (setUrl_sets_url env hurl))))
  · exact (kF.1 _ fun h => methodSetting_not_mem hp (h ▸ List.mem_cons_self _ _)).trans
      (HTTPConnection.setMethod_sets env hmeth p hp)
  · rw [if_neg (by simpa using hne)] at hadd
    obtain ⟨_, ha, rfl⟩ := HTTPConnection.lift_eq_ok hadd
    obtain ⟨hlist, ho⟩ := addHeaders_from_null hne rfl ha
    have hl := listsKept_trans ((setMethod_listsKept env fe.meth).of_ok hmeth) kF.2
    exact ⟨(kF.1 _ (by decide)).trans ((kM _ (by decide)).trans (by rw [ho, hl.1])),
      hlist.of_kept hl⟩
  · have hfe : fe.fields ≠ [] := fun h => hf (by rw [h]; rfl)
    rw [if_pos ⟨hm, hfe⟩] at hfields
    obtain ⟨_, hset, rfl⟩ := HTTPConnection.lift_eq_ok hfields
    exact setFields_sets env hf hset

/-- When `curl_easy_perform` runs in the `execute` of `fe`, every option the execute sets
holds the value `fe` gives it: the URL, the option of the method, a header list of exactly
`fe`'s headers when it has any, the body when `set_fields` runs on a non-empty one, and the
timeout. -/
theorem atPerform_sets_request_options {fe : SharedHTTPConnection} {b : Bool}
    {conn h : HTTPConnection} (hat : atPerform env fe b conn = some h) :
    Pushed fe h.impl ∧ h.impl.handle.bind (· .timeoutMs) =
      some (.long (if fe.timeout > 0 then fe.timeout else 0)) := by
  unfold atPerform at hat
  split at hat
  · rename_i hrun
    cases hat
    obtain ⟨_, c, hpush, hlast⟩ := Cpp.bind_eq_ok hrun
    obtain ⟨_, hexec, rfl⟩ := HTTPConnection.lift_eq_ok hlast
    obtain ⟨_, c₁, htimeout, hprep⟩ := Cpp.bind_eq_ok hexec
    -- `set_timeout` sets the timeout only, and the part of `execute` before the transfer
    -- the callbacks only
    have kT : ∀ o, o ≠ .timeoutMs → OptionKept o c.impl c₁ :=
      fun o ho => (setOption_optionKept env o (Ne.symm ho) _).of_ok htimeout
    have kP : ∀ o ∉ [CURLoption.writeFunction, .writeData, .headerFunction, .headerData],
        OptionKept o c₁ _ := fun o ho => by
      simp only [List.mem_cons, List.not_mem_nil, or_false, not_or] at ho
      exact (prepare_optionKept env o (by simp [Ne.symm ho.1, Ne.symm ho.2.1])
        fun _ => by simp [Ne.symm ho.2.2.1, Ne.symm ho.2.2.2]).of_ok hprep
    refine ⟨(pushRequest_pushed env hpush).of_kept (fun o ho => optionKept_trans o
        (kT o fun h => ho (h ▸ List.mem_cons_self _ _))
        (kP o fun h => ho (List.mem_cons_of_mem _ h)))
      (listsKept_trans ((setOption_keeps env _ _).of_ok htimeout)
        ((prepare_keeps env b).of_ok hprep)),
      (kP _ (by decide)).trans (setOption_value env htimeout)⟩
  · cases hat

theorem atPerform_sets_request_options_samplePosted :
    ∃ h, atPerform Env.accepting samplePost false samplePosted = some h ∧
      Pushed samplePost h.impl ∧ h.impl.handle.bind (· .timeoutMs) =
        some (.long (if samplePost.timeout > 0 then samplePost.timeout else 0)) := by
  obtain ⟨h, hat⟩ := Option.isSome_iff_exists.mp (by decide :
    (atPerform Env.accepting samplePost false samplePosted).isSome = true)
  exact ⟨h, hat, atPerform_sets_request_options Env.accepting hat⟩

end Sets

section Raises

open CurlException

theorem pushRequest_raises {fe : SharedHTTPConnection} (hurl : httpProtocolOk fe.url = true) :
    Cpp.Raises NotInvalidProtocol (pushRequest env fe) :=
  (HTTPConnection.setUrl_raises env hurl).bind fun _ => (Cpp.Raises.modify _).focus.bind
    fun _ => (Cpp.Raises.ite (.pure _) (CurlConnectionImpl.addHeaders_raises env _).focus).bind
    fun _ => (HTTPConnection.setMethod_raises env _).bind
    fun _ => .ite (CurlConnectionImpl.setFieldsText_raises env _).focus (.pure _)

/-- Under the entry mutex, `execute` throws `"invalid protocol in url: ..."` only for a
pending URL that `HTTPConnection::set_url` refuses. -/
theorem executeLocked_raises {fe : SharedHTTPConnection} (b : Bool)
    (hurl : httpProtocolOk fe.url = true) :
    Cpp.Raises NotInvalidProtocol (executeLocked env fe b) :=
  (pushRequest_raises env hurl).focus.bind fun _ => (Cpp.Raises.modify _).bind
    fun _ => ((CurlConnectionImpl.setOption_raises env _ _).bind
      fun _ => CurlConnectionImpl.execute_raises env b).focus.focus

end Raises

end SharedHTTPConnection

end CurlConnect

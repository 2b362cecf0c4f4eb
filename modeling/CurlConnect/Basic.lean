import Mathlib.Data.List.Basic

/-!
The vocabulary shared by the models of `curl_connect.cpp`: C strings, the libcurl
options the file sets and the values it hands them, the HTTP methods and the
exceptions it throws. libcurl is not modelled; `Env` gives its answers (whether
an option is accepted, whether an allocation succeeds, what a transfer returns),
and the theorems hold for every such answer.

A C++ call on an object is a `Cpp σ α`: it returns a value or throws, and in both
cases leaves the object with the effects it made so far. There is no rollback in
the source, so the state after a throw is part of what is modelled.
-/

namespace CurlConnect

/-- What C sees of a `std::string` through `c_str()`: the bytes before the first NUL. -/
def cStr (s : List Char) : List Char := s.takeWhile (· ≠ '\x00')

theorem cStr_of_nul_free {s : List Char} (h : '\x00' ∉ s) : cStr s = s :=
  List.takeWhile_eq_self_iff.mpr fun _ hc => decide_eq_true fun he => h (he ▸ hc)

inductive CURLoption where
  | writeData | url | errorBuffer | writeFunction | httpHeader | headerData
  | customRequest | post | sslVerifyPeer | caInfo | headerFunction | httpGet
  | sslVerifyHost | caPath | noSignal | acceptEncoding | timeoutMs | copyPostFields
  | tcpKeepalive | sslOptions
  deriving DecidableEq, Repr

/-- The `CURLOPT_*` number of an option, as `std::to_string(opt)` prints it. -/
def CURLoption.code : CURLoption → Nat
  | .writeData => 10001 | .url => 10002 | .errorBuffer => 10010
  | .writeFunction => 20011 | .httpHeader => 10023 | .headerData => 10029
  | .customRequest => 10036 | .post => 47 | .sslVerifyPeer => 64 | .caInfo => 10065
  | .headerFunction => 20079 | .httpGet => 80 | .sslVerifyHost => 81
  | .caPath => 10097 | .noSignal => 99 | .acceptEncoding => 10102
  | .timeoutMs => 155 | .copyPostFields => 10165 | .tcpKeepalive => 213
  | .sslOptions => 216

/-- A value handed to `curl_easy_setopt`: a `long`, a C string (libcurl keeps a
copy of it), or any other pointer, by address. Address `0` is `nullptr`. -/
inductive OptVal where
  | long (n : Int)
  | str (s : List Char)
  | ptr (p : Nat)
  deriving DecidableEq, Repr

/-- `CurlConnectionImpl_::to<T>::str`: the text `_options` records for a value. -/
def OptVal.toStr : OptVal → List Char
  | .long n => (toString n).toList
  | .str s => s
  | .ptr p => (toString p).toList

def OptVal.isStr : OptVal → Bool
  | .str _ => true
  | .long _ | .ptr _ => false

/-- The options a libcurl easy handle holds, since `curl_easy_init` or the last
`curl_easy_reset`. -/
abbrev Handle := CURLoption → Option OptVal

/-- `HttpMethod`. A value of the enumeration other than the four named ones is
`other`; `_set_method` refuses it. -/
inductive HttpMethod where
  | httpGet | httpPost | httpDelete | httpPut
  | other (value : Int)
  deriving DecidableEq, Repr

/-- The exceptions of the file: `CurlException`, `CurlOptionException` (with the
option and the value), `CurlConnectionError` (with the `CURLcode`) and the
`std::runtime_error` of `_set_method`. -/
inductive CurlException where
  | curl (what : List Char)
  | option (what : List Char) (option : CURLoption) (value : List Char)
  | connection (code : Int) (what : List Char)
  | runtime (what : List Char)
  deriving DecidableEq, Repr

/-- `CurlOptionException(opt, val)`: the text names the option's number and the value. -/
def CurlException.optionRefused (opt : CURLoption) (val : List Char) : CurlException :=
  .option ("error setting easy curl option(".toList ++ (toString opt.code).toList ++
    ") with value(".toList ++ val ++ ")".toList) opt val

def CurlException.connectionError (code : Int) (msg : List Char) : CurlException :=
  .connection code ("curl connection error (".toList ++ (toString code).toList ++
    "): ".toList ++ msg)

def CurlException.handleClosed : CurlException :=
  .curl "connection/handle has been closed".toList

/-- The answers of everything outside the file. -/
structure Env where
  /-- `curl_easy_init` returns a handle. -/
  init : Bool
  /-- `curl_easy_setopt` returns `CURLE_OK` for this option and value. -/
  setopt : CURLoption → OptVal → Bool
  /-- The allocation a `curl_slist_append` makes at this address succeeds. -/
  alloc : Nat → Bool
  /-- `curl_easy_perform` with these options: on failure the `CURLcode` and the text
  libcurl leaves in the error buffer; on success the response code and the bytes
  written through the body and the header callbacks. -/
  perform : Handle → Except (Int × List Char) (Int × List Char × List Char)
  /-- `curl_easy_perform` returns on a handle with these options: with `CURLOPT_TIMEOUT_MS`
  0 a transfer whose server never answers does not. -/
  returns : Handle → Bool
  /-- The address of `WriteCallback::write`. -/
  writeCallback : Nat
  /-- The process-wide `certificate_bundle_path`. -/
  certificateBundlePath : List Char

/-- The environment in which libcurl accepts every option, every allocation succeeds
and every transfer returns status 200 with nothing in the body or the header. -/
def Env.accepting : Env where
  init := true
  setopt := fun _ _ => true
  alloc := fun _ => true
  perform := fun _ => .ok (200, [], [])
  returns := fun _ => true
  writeCallback := 1
  certificateBundlePath := []

abbrev Cpp (σ α : Type) := EStateM CurlException σ α

section Cpp

variable {σ α β : Type}

@[simp] theorem Cpp.pure_apply (a : α) (s : σ) : (pure a : Cpp σ α) s = .ok a s := rfl

@[simp] theorem Cpp.throw_apply (e : CurlException) (s : σ) :
    (throw e : Cpp σ α) s = .error e s := rfl

@[simp] theorem Cpp.modify_apply (f : σ → σ) (s : σ) :
    (modify f : Cpp σ PUnit) s = .ok () (f s) := rfl

theorem Cpp.bind_apply (x : Cpp σ α) (f : α → Cpp σ β) (s : σ) :
    (x >>= f) s = match x s with
      | .ok a s' => f a s'
      | .error e s' => .error e s' := by
  show EStateM.bind x f s = _
  unfold EStateM.bind
  cases x s <;> rfl

theorem Cpp.bind_eq_ok {x : Cpp σ α} {f : α → Cpp σ β} {s s' : σ} {b : β}
    (h : (x >>= f) s = .ok b s') : ∃ a s₁, x s = .ok a s₁ ∧ f a s₁ = .ok b s' := by
  rw [Cpp.bind_apply] at h
  cases hx : x s with
  | ok a s₁ => rw [hx] at h; exact ⟨a, s₁, rfl, h⟩
  | error e s₁ => rw [hx] at h; cases h

def Cpp.stateOf : EStateM.Result CurlException σ α → σ
  | .ok _ s => s
  | .error _ s => s

@[simp] theorem Cpp.stateOf_ok (a : α) (s : σ) :
    Cpp.stateOf (.ok a s : EStateM.Result CurlException σ α) = s := rfl

@[simp] theorem Cpp.stateOf_error (e : CurlException) (s : σ) :
    Cpp.stateOf (.error e s : EStateM.Result CurlException σ α) = s := rfl

/-- Every run of `x`, returning or throwing, ends in a state related to its start by `R`. -/
def Cpp.Keeps (R : σ → σ → Prop) (x : Cpp σ α) : Prop := ∀ s, R s (Cpp.stateOf (x s))

variable {R : σ → σ → Prop}

theorem Cpp.Keeps.pure (hR : Reflexive R) (a : α) : Cpp.Keeps R (pure a : Cpp σ α) :=
  fun s => hR s

theorem Cpp.Keeps.bind (hR : Transitive R) {x : Cpp σ α} {f : α → Cpp σ β}
    (hx : Cpp.Keeps R x) (hf : ∀ a, Cpp.Keeps R (f a)) : Cpp.Keeps R (x >>= f) := by
  intro s
  have := hx s
  rw [Cpp.bind_apply]
  cases h : x s with
  | ok a s' => rw [h] at this; exact hR this (hf a s')
  | error e s' => rw [h] at this; exact this

theorem Cpp.Keeps.mono {R' : σ → σ → Prop} {x : Cpp σ α} (hx : Cpp.Keeps R x)
    (h : ∀ s s', R s s' → R' s s') : Cpp.Keeps R' x :=
  fun s => h _ _ (hx s)

theorem Cpp.Keeps.of_ok {x : Cpp σ α} (hx : Cpp.Keeps R x) {s s' : σ} {a : α}
    (h : x s = .ok a s') : R s s' := by
  have := hx s
  rwa [h] at this

theorem Cpp.Keeps.of_error {x : Cpp σ α} (hx : Cpp.Keeps R x) {s s' : σ} {e : CurlException}
    (h : x s = .error e s') : R s s' := by
  have := hx s
  rwa [h] at this

/-- A later state satisfies `P` when the earlier one does: `Cpp.Keeps (Cpp.Kept P) x` says
that `x` keeps the invariant `P`. -/
def Cpp.Kept (P : σ → Prop) (s s' : σ) : Prop := P s → P s'

theorem Cpp.kept_refl (P : σ → Prop) : Reflexive (Cpp.Kept P) := fun _ h => h

theorem Cpp.kept_trans (P : σ → Prop) : Transitive (Cpp.Kept P) := fun _ _ _ h₁ h₂ => h₂ ∘ h₁

/-- Every run of `x` that returns ends in a state related to its start by `Q`. -/
def Cpp.Returns (Q : σ → σ → Prop) (x : Cpp σ α) : Prop :=
  ∀ s a s', x s = .ok a s' → Q s s'

theorem Cpp.Returns.bind_keeps {Q : σ → σ → Prop} {x : Cpp σ α} {f : α → Cpp σ β}
    (hx : Cpp.Returns Q x) (hf : ∀ a, Cpp.Keeps R (f a))
    (hQR : ∀ s₁ s₂ s₃, Q s₁ s₂ → R s₂ s₃ → Q s₁ s₃) :
    Cpp.Returns Q (x >>= f) := by
  intro s b s' h
  obtain ⟨a, s₁, h₁, h₂⟩ := Cpp.bind_eq_ok h
  exact hQR _ _ _ (hx _ _ _ h₁) ((hf a).of_ok h₂)

/-- Every exception `x` throws satisfies `P`. -/
def Cpp.Raises (P : CurlException → Prop) (x : Cpp σ α) : Prop :=
  ∀ s e s', x s = .error e s' → P e

variable {P : CurlException → Prop}

theorem Cpp.Raises.pure (a : α) : Cpp.Raises P (pure a : Cpp σ α) :=
  fun _ _ _ h => nomatch h

theorem Cpp.Raises.bind {x : Cpp σ α} {f : α → Cpp σ β}
    (hx : Cpp.Raises P x) (hf : ∀ a, Cpp.Raises P (f a)) : Cpp.Raises P (x >>= f) := by
  intro s e s' h
  rw [Cpp.bind_apply] at h
  cases hr : x s with
  | ok a t => rw [hr] at h; exact hf a t e s' h
  | error e' t => rw [hr] at h; cases h; exact hx s _ _ hr

theorem Cpp.Raises.ite {c : Prop} [Decidable c] {x y : Cpp σ α} (hx : Cpp.Raises P x)
    (hy : Cpp.Raises P y) : Cpp.Raises P (if c then x else y) := by
  split <;> assumption

theorem Cpp.Raises.get : Cpp.Raises P (get : Cpp σ σ) := fun _ _ _ h => nomatch h

theorem Cpp.Raises.modify (f : σ → σ) : Cpp.Raises P (modify f : Cpp σ PUnit) :=
  fun _ _ _ h => nomatch h

/-- A call on the part of an object that `get` selects and `set` writes back, such
as a member or the object behind a pointer member. -/
def Cpp.focus {τ : Type} (get : σ → τ) (set : σ → τ → σ) (x : Cpp τ α) :
    Cpp σ α := fun s =>
  match x (get s) with
  | .ok a t => .ok a (set s t)
  | .error e t => .error e (set s t)

theorem Cpp.Keeps.get (hR : Reflexive R) : Cpp.Keeps R (get : Cpp σ σ) :=
  fun s => hR s

theorem Cpp.Keeps.modify {f : σ → σ} (h : ∀ s, R s (f s)) :
    Cpp.Keeps R (modify f : Cpp σ PUnit) :=
  h

theorem Cpp.Keeps.focus_of {τ : Type} {get : σ → τ} {set : σ → τ → σ} {x : Cpp τ α}
    {R' : τ → τ → Prop} (hx : Cpp.Keeps R' x)
    (hset : ∀ s t, R' (get s) t → R s (set s t)) :
    Cpp.Keeps R (Cpp.focus get set x) := by
  intro s
  have := hx (get s)
  unfold Cpp.focus
  cases h : x (get s) <;> rw [h] at this <;> exact hset s _ this

theorem Cpp.Keeps.focus {τ : Type} {get : σ → τ} {set : σ → τ → σ} {x : Cpp τ α}
    (hset : ∀ s t, R s (set s t)) : Cpp.Keeps R (Cpp.focus get set x) := by
  intro s
  unfold Cpp.focus
  cases x (get s) <;> exact hset s _

theorem Cpp.Raises.focus {τ : Type} {get : σ → τ} {set : σ → τ → σ} {x : Cpp τ α}
    (hx : Cpp.Raises P x) : Cpp.Raises P (Cpp.focus get set x) := by
  intro s e s' h
  unfold Cpp.focus at h
  split at h
  · cases h
  · rename_i hr; cases h; exact hx _ _ _ hr

end Cpp

end CurlConnect

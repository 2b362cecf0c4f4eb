import CurlConnect.Basic

/-!
The two protocol tests of the source. `SharedHTTPConnection::set_url` runs
`std::regex_search` with the ECMAScript pattern `http[s]?\://` and
`match_continuous`, so the match has to start at the first character of the URL;
`HTTPConnection::set_url` asks whether `rfind("https://", 0)` or `rfind("http://", 0)`
is `0`.

The pattern is written here as its syntax tree. The parser of `std::regex` is not
modelled, only the fragment the pattern is made of (literal characters, a bracket
class, the `?` quantifier) and a search anchored at the first character, which tries
every way the quantifiers can match. Both tests accept exactly the strings that begin
with `http://` or `https://`.
-/

namespace CurlConnect

/-- The error both `set_url`s throw: `"invalid protocol in url: " + url`. -/
def CurlException.invalidProtocol (url : List Char) : CurlException :=
  .curl ("invalid protocol in url: ".toList ++ url)

/-- The exceptions other than `"invalid protocol in url: " + url`. -/
def CurlException.NotInvalidProtocol (e : CurlException) : Prop :=
  ∀ url, e ≠ .invalidProtocol url

theorem CurlException.handleClosed_notInvalidProtocol :
    CurlException.handleClosed.NotInvalidProtocol := by
  intro url h
  simp [CurlException.handleClosed, CurlException.invalidProtocol] at h

/-- One position of a pattern: a literal character, or a bracket class `[...]`. -/
inductive Atom
  | lit (c : Char)
  | oneOf (cs : List Char)
deriving DecidableEq, Repr

def Atom.matches : Atom → Char → Bool
  | .lit c, x => c == x
  | .oneOf cs, x => cs.contains x

/-- An atom taken once, or under `?`. -/
inductive Term
  | one (a : Atom)
  | optional (a : Atom)
deriving DecidableEq, Repr

/-- `regex_search(s, rx, match_continuous)`: some prefix of `s` matches `rx`. -/
def matchPrefix : List Term → List Char → Bool
  | [], _ => true
  | .one a :: ts, s =>
      match s with
      | [] => false
      | x :: s => a.matches x && matchPrefix ts s
  | .optional a :: ts, s =>
      (match s with
       | [] => false
       | x :: s => a.matches x && matchPrefix ts s) || matchPrefix ts s

def lits (p : List Char) : List Term := p.map fun c => .one (.lit c)

/-- `PROTO_RX`, the pattern `http[s]?\://`; `\:` is the identity escape of `:`. -/
def protoRx : List Term :=
  [.one (.lit 'h'), .one (.lit 't'), .one (.lit 't'), .one (.lit 'p'),
   .optional (.oneOf ['s']), .one (.lit ':'), .one (.lit '/'), .one (.lit '/')]

/-- `std::string::rfind(pat, pos)`: the last position not after `pos` at which `pat`
starts in `s`, or `npos`. -/
def rfind (s pat : List Char) (pos : Nat) : Option Nat :=
  (List.range (min pos s.length + 1)).reverse.find? fun i => pat.isPrefixOf (s.drop i)

/-- The protocol test of `HTTPConnection::set_url`, which throws when it fails. -/
def httpProtocolOk (url : List Char) : Bool :=
  rfind url "https://".toList 0 == some 0 || rfind url "http://".toList 0 == some 0

theorem isPrefixOf_append (p q s : List Char) :
    (p ++ q).isPrefixOf s = (p.isPrefixOf s && q.isPrefixOf (s.drop p.length)) := by
  induction p generalizing s with
  | nil => simp [List.isPrefixOf]
  | cons c p ih =>
    cases s with
    | nil => rfl
    | cons x s => simp [List.isPrefixOf, ih, Bool.and_assoc]

theorem matchPrefix_lits (p : List Char) (ts : List Term) (s : List Char) :
    matchPrefix (lits p ++ ts) s = (p.isPrefixOf s && matchPrefix ts (s.drop p.length)) := by
  induction p generalizing s with
  | nil => simp [lits, List.isPrefixOf]
  | cons c p ih =>
    cases s with
    | nil => rfl
    | cons x s => simp [lits, matchPrefix, List.isPrefixOf, Atom.matches, ← ih, Bool.and_assoc]

theorem matchPrefix_optional (a : Atom) (ts : List Term) (s : List Char) :
    matchPrefix (.optional a :: ts) s = (matchPrefix (.one a :: ts) s || matchPrefix ts s) := by
  cases s <;> rfl

/-- `PROTO_RX` matches at the start of `url` exactly when `url` begins with
`https://` or `http://`. -/
theorem matchPrefix_protoRx (url : List Char) :
    matchPrefix protoRx url =
      ("https://".toList.isPrefixOf url || "http://".toList.isPrefixOf url) := by
  have hrx :
      protoRx = lits "http".toList ++ .optional (.oneOf ['s']) :: (lits "://".toList ++ []) :=
    rfl
  have hhttps : "https://".toList = "http".toList ++ "s://".toList := rfl
  have hhttp : "http://".toList = "http".toList ++ "://".toList := rfl
  have htail (r : List Char) :
      matchPrefix (lits "://".toList ++ []) r = "://".toList.isPrefixOf r := by
    rw [matchPrefix_lits]; simp [matchPrefix]
  rw [hrx, matchPrefix_lits, hhttps, hhttp, isPrefixOf_append, isPrefixOf_append,
    ← Bool.and_or_distrib_left, matchPrefix_optional, htail]
  congr 2
  generalize List.drop _ url = r
  cases r with
  | nil => rfl
  | cons x r =>
    show (['s'].contains x && matchPrefix (lits "://".toList ++ []) r) = ('s' == x && _)
    rw [htail]
    by_cases h : x = 's' <;> simp [h, Ne.symm]

theorem rfind_zero_eq_zero (s pat : List Char) :
    (rfind s pat 0 == some 0) = pat.isPrefixOf s := by
  rw [Bool.eq_iff_iff]
  simp [rfind, List.range_succ]

theorem rfind_eq_some_zero {s pat : List Char} (h : pat <+: s) : rfind s pat 0 = some 0 := by
  have := rfind_zero_eq_zero s pat
  rw [List.isPrefixOf_iff_prefix.mpr h] at this
  exact beq_iff_eq.mp this

theorem httpProtocolOk_eq_matchPrefix (url : List Char) :
    httpProtocolOk url = matchPrefix protoRx url := by
  rw [matchPrefix_protoRx, httpProtocolOk, rfind_zero_eq_zero, rfind_zero_eq_zero]

example : matchPrefix protoRx "httpss://x".toList = false := by decide

end CurlConnect

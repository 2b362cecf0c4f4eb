import CurlConnect.Curl.Impl
import Mathlib.Data.List.Infix

/-!
The header list of a `CurlConnectionImpl_` over a run of calls of its interface.
Every call other than `ADD_headers`, `RESET_headers`, `RESET_options` and `close`
leaves the list alone (`ListsKept`), so the list is a function of the header calls:
what `ADD_headers` appended since the last reset. `GET_headers` reads it back when
no name holds `": "` and no name or value holds a NUL, which `c_str()` would cut at.

A throwing `ADD_headers` never touches the handle or `_options`; it may have
extended the list already, since nothing is rolled back.
-/

namespace CurlConnect

namespace CurlConnectionImpl

variable (env : Env)

def ListsKept (c c' : CurlConnectionImpl) : Prop :=
  c'.header = c.header ∧ c'.slists = c.slists ∧ c.next ≤ c'.next

theorem listsKept_refl : Reflexive ListsKept := fun _ => ⟨rfl, rfl, le_rfl⟩

theorem listsKept_trans : Transitive ListsKept := fun _ _ _ h₁ h₂ =>
  ⟨h₂.1.trans h₁.1, h₂.2.1.trans h₁.2.1, h₁.2.2.trans h₂.2.2⟩

theorem setOption_keeps (o : CURLoption) (v : OptVal) :
    Cpp.Keeps ListsKept (setOption env o v) := by
  intro c
  unfold setOption
  split
  · exact listsKept_refl c
  · split <;> exact listsKept_refl c

theorem setOption_keeps₂ (o₁ o₂ : CURLoption) (v₁ v₂ : OptVal) :
    Cpp.Keeps ListsKept (do setOption env o₁ v₁; setOption env o₂ v₂) :=
  .bind listsKept_trans (setOption_keeps env o₁ v₁) fun _ => setOption_keeps env o₂ v₂

theorem setSslVerify_keeps (enabled : Bool) : Cpp.Keeps ListsKept (setSslVerify env enabled) :=
  setOption_keeps₂ env _ _ _ _

theorem setSslVerify_keeps₂ (o : CURLoption) (v : OptVal) :
    Cpp.Keeps ListsKept (do setSslVerify env true; setOption env o v) :=
  Cpp.Keeps.bind listsKept_trans (setSslVerify_keeps env true) fun _ => setOption_keeps env o v

theorem setFieldsText_keeps (fields : List Char) :
    Cpp.Keeps ListsKept (setFieldsText env fields) := by
  intro c
  unfold setFieldsText
  split_ifs
  · exact listsKept_refl c
  · exact listsKept_refl c
  · exact setOption_keeps env _ _ c

theorem setOption_value {o : CURLoption} {v : OptVal} {c c' : CurlConnectionImpl}
    (h : setOption env o v c = .ok () c') : c'.handle.bind (· o) = some v := by
  unfold setOption at h
  split at h
  · cases h
  · split at h
    · cases h; simp
    · cases h

theorem prepare_keeps (b : Bool) : Cpp.Keeps ListsKept (prepare env b) := fun c => by
  unfold prepare
  by_cases hc : c.handle.isNone
  · rw [if_pos hc]; exact listsKept_refl c
  · rw [if_neg hc]
    refine listsKept_trans (⟨rfl, rfl, by simp⟩ : ListsKept c { c with next := c.next + 2 }) ?_
    refine Cpp.Keeps.bind listsKept_trans (setOption_keeps env _ _) (fun _ => ?_) _
    refine Cpp.Keeps.bind listsKept_trans (setOption_keeps env _ _) (fun _ => ?_)
    cases b
    · exact Cpp.Keeps.pure listsKept_refl _
    · exact setOption_keeps₂ env _ _ _ _

theorem perform_keeps {R : CurlConnectionImpl → CurlConnectionImpl → Prop} (hR : Reflexive R)
    (b : Bool) : Cpp.Keeps R (perform env b) := fun c => by
  unfold perform
  split
  · exact hR c
  · split <;> exact hR c

theorem execute_keeps (b : Bool) : Cpp.Keeps ListsKept (execute env b) :=
  .bind listsKept_trans (prepare_keeps env b) fun _ => perform_keeps env listsKept_refl b

/-- The node `ADD_headers` writes for a header. -/
def headerNode (h : List Char × List Char) : List Char := cStr (h.1 ++ ": ".toList ++ h.2)

/-- The header list of `c` holds the nodes of `acc`, and allocation has begun. -/
def HeaderList (c : CurlConnectionImpl) (acc : List (List Char × List Char)) : Prop :=
  0 < c.next ∧ if c.header = 0 then acc = [] else c.slists c.header = some (acc.map headerNode)

variable {env}

theorem HeaderList.of_kept {c c' : CurlConnectionImpl} {acc : List (List Char × List Char)}
    (h : HeaderList c acc) (hk : ListsKept c c') : HeaderList c' acc := by
  obtain ⟨hh, hs, hn⟩ := hk
  exact ⟨lt_of_lt_of_le h.1 hn, by rw [hh, hs]; exact h.2⟩

theorem HeaderList.nodes {c : CurlConnectionImpl} {acc : List (List Char × List Char)}
    (h : HeaderList c acc) : slistNodes c c.header = acc.map headerNode := by
  obtain ⟨-, hl⟩ := h
  unfold slistNodes
  split_ifs at hl ⊢ <;> simp_all

theorem appendHeaders_ok (hs : List (List Char × List Char)) {c c' : CurlConnectionImpl}
    {acc : List (List Char × List Char)} (h : HeaderList c acc)
    (hok : appendHeaders env hs c = .ok () c') :
    HeaderList c' (acc ++ hs) ∧ c'.handle = c.handle ∧ c'.options = c.options := by
  induction hs generalizing c acc with
  | nil =>
      cases hok
      exact ⟨by simpa using h, rfl, rfl⟩
  | cons x hs ih =>
      obtain ⟨hpos, hlist⟩ := h
      simp only [appendHeaders, slistAppend] at hok
      by_cases halloc : env.alloc c.next
      · by_cases h0 : c.header = 0
        · simp only [halloc, h0, if_true, hpos.ne', if_false] at hok hlist
          have := @ih _ [x] ⟨by simp, by simp [hpos.ne', headerNode]⟩ hok
          simpa [hlist] using this
        · simp only [halloc, h0, if_true, if_false] at hok hlist
          have := @ih _ (acc ++ [x]) ⟨by simp, by simp [h0, hlist, headerNode]⟩ hok
          simpa using this
      · simp [halloc] at hok

theorem addHeaders_ok (hs : List (List Char × List Char)) {c c' : CurlConnectionImpl}
    {acc : List (List Char × List Char)} (h : HeaderList c acc)
    (hok : addHeaders env hs c = .ok () c') : HeaderList c' (acc ++ hs) := by
  unfold addHeaders at hok
  split_ifs at hok with hclosed hempty
  · cases hok
    rw [List.isEmpty_iff.mp hempty, List.append_nil]
    exact h
  · obtain ⟨_, c₁, happ, hset⟩ := Cpp.bind_eq_ok hok
    have hset : setOption env .httpHeader (.ptr c₁.header) c₁ = .ok () c' := hset
    exact (appendHeaders_ok hs h happ).1.of_kept ((setOption_keeps env _ _).of_ok hset)

theorem addHeaders_from_null {hs : List (List Char × List Char)} (hne : hs ≠ [])
    {c c' : CurlConnectionImpl} (h0 : c.header = 0) (hok : addHeaders env hs c = .ok () c') :
    HeaderList c' hs ∧ c'.handle.bind (· .httpHeader) = some (.ptr c'.header) := by
  obtain ⟨x, hs, rfl⟩ := List.exists_cons_of_ne_nil hne
  unfold addHeaders at hok
  split_ifs at hok with hc he
  · simp at he
  obtain ⟨_, c₁, happ, hset⟩ := Cpp.bind_eq_ok hok
  have hset : setOption env .httpHeader (.ptr c₁.header) c₁ = .ok () c' := hset
  -- the first append allocates the head at `next`, which must not be null
  have hlist : HeaderList c₁ (x :: hs) := by
    simp only [appendHeaders, slistAppend, h0, if_true] at happ
    by_cases halloc : env.alloc c.next
    · by_cases hn : c.next = 0
      · rw [hn] at halloc
        simp [halloc, hn] at happ
      · simp only [halloc, hn, if_true, if_false] at happ
        simpa using
          (@appendHeaders_ok env hs _ _ [x] ⟨by simp, by simp [hn, headerNode]⟩ happ).1
    · simp [halloc] at happ
  have hkept := (setOption_keeps env _ _).of_ok hset
  exact ⟨hlist.of_kept hkept, by rw [setOption_value env hset, hkept.1]⟩

theorem resetHeaders_list {c : CurlConnectionImpl} {acc : List (List Char × List Char)}
    (h : HeaderList c acc) : HeaderList (resetHeaders c) [] := by
  refine ⟨?_, by simp [resetHeaders]⟩
  unfold resetHeaders slistFreeAll
  split_ifs <;> exact h.1

theorem new_list {c : CurlConnectionImpl} (h : new env = .ok c) : HeaderList c [] := by
  unfold new at h
  split at h
  · rename_i c₁ hr
    cases h
    exact HeaderList.of_kept (⟨by simp [initial], by simp [initial]⟩ : HeaderList (initial env) [])
      ((setOption_keeps₂ env _ _ _ _).of_ok hr)
  · cases h

/-- A header that comes back from its node: no `": "` in the name, no NUL anywhere. -/
def CleanHeader (h : List Char × List Char) : Prop :=
  ¬ [':', ' '] <:+: h.1 ∧ '\x00' ∉ h.1 ∧ '\x00' ∉ h.2

instance : DecidablePred CleanHeader := fun _ => inferInstanceAs (Decidable (_ ∧ _ ∧ _))

theorem headerNode_of_clean {h : List Char × List Char} (hc : CleanHeader h) :
    headerNode h = h.1 ++ ':' :: ' ' :: h.2 := by
  have hnul : '\x00' ∉ h.1 ++ ": ".toList ++ h.2 := by
    simp only [List.mem_append, not_or]
    exact ⟨⟨hc.2.1, by decide⟩, hc.2.2⟩
  rw [headerNode, cStr_of_nul_free hnul]
  simp

theorem findSub_node (n v : List Char) (hn : ¬ [':', ' '] <:+: n) :
    findSub ": ".toList (n ++ ':' :: ' ' :: v) = some n.length := by
  induction n with
  | nil => simp [findSub]
  | cons x n ih =>
      have hn' : ¬ [':', ' '] <:+: n := fun h => hn (h.trans (List.suffix_cons x n).isInfix)
      have hpre : ¬ (':' = x ∧ [' '] <+: n ++ ':' :: ' ' :: v) := by
        rintro ⟨rfl, hp⟩
        cases n with
        | nil => simp at hp
        | cons y n =>
            have hy : ' ' = y := by simpa using hp
            exact hn ⟨[], n, by rw [← hy]; rfl⟩
      simp [findSub, hpre, ih hn']
      simpa using ih hn'

theorem splitHeader_node (h : List Char × List Char) (hc : CleanHeader h) :
    splitHeader (headerNode h) = .ok h := by
  rw [splitHeader, headerNode_of_clean hc, findSub_node _ _ hc.1]
  simp

theorem mapM_splitHeader (acc : List (List Char × List Char)) (hc : ∀ x ∈ acc, CleanHeader x) :
    (acc.map headerNode).mapM splitHeader = .ok acc := by
  induction acc with
  | nil => rfl
  | cons x acc ih =>
      rw [List.map_cons, List.mapM_cons, splitHeader_node x (hc x (List.mem_cons_self _ _)),
        ih fun y hy => hc y (List.mem_cons_of_mem _ hy)]
      rfl

theorem getHeaders_of_list {c : CurlConnectionImpl} {acc : List (List Char × List Char)}
    (h : HeaderList c acc) (hc : ∀ x ∈ acc, CleanHeader x) : getHeaders c = .ok acc := by
  rw [getHeaders, h.nodes, mapM_splitHeader acc hc]

theorem headerListToMap_nodes (acc : List (List Char × List Char))
    (hc : ∀ x ∈ acc, CleanHeader x) :
    (headerListToMap (acc.map headerNode)).isSome := by
  induction acc with
  | nil => rfl
  | cons x acc ih =>
      have hcolon : ':' ∈ headerNode x := by
        simp [headerNode_of_clean (hc x (List.mem_cons_self _ _))]
      obtain ⟨r, hr⟩ :=
        Option.isSome_iff_exists.mp (ih fun y hy => hc y (List.mem_cons_of_mem _ hy))
      simp only [headerListToMap] at hr
      simp only [headerListToMap, List.map_cons, List.mapM_cons, hcolon, if_true, hr]
      rfl

end CurlConnectionImpl

/-- The calls of the interface of `CurlConnection`, each forwarded to
`CurlConnectionImpl_`. -/
inductive CurlCall where
  | setOption (option : CURLoption) (param : OptVal)
  | setUrl (url : List Char)
  | setSslVerify (enabled : Bool)
  | setSslVerifyUsingCaBundle (path : List Char)
  | setSslVerifyUsingCaCerts (dir : List Char)
  | setEncoding (enc : List Char)
  | setKeepalive (enabled : Bool)
  | setTimeout (timeout : Int)
  | addHeaders (headers : List (List Char × List Char))
  | resetHeaders
  | setFields (fields : List (List Char × List Char))
  | setFieldsText (fields : List Char)
  | resetOptions
  | execute (returnHeaderData : Bool)
  | close

namespace CurlCall

open CurlConnectionImpl (HeaderList ListsKept CleanHeader listsKept_refl listsKept_trans)

def run (env : Env) : CurlCall → Cpp CurlConnectionImpl Unit
  | .setOption o v => CurlConnectionImpl.setOption env o v
  | .setUrl url => CurlConnectionImpl.setUrl env url
  | .setSslVerify enabled => CurlConnectionImpl.setSslVerify env enabled
  | .setSslVerifyUsingCaBundle path => CurlConnectionImpl.setSslVerifyUsingCaBundle env path
  | .setSslVerifyUsingCaCerts dir => CurlConnectionImpl.setSslVerifyUsingCaCerts env dir
  | .setEncoding enc => CurlConnectionImpl.setEncoding env enc
  | .setKeepalive enabled => CurlConnectionImpl.setKeepalive env enabled
  | .setTimeout timeout => CurlConnectionImpl.setTimeout env timeout
  | .addHeaders hs => CurlConnectionImpl.addHeaders env hs
  | .resetHeaders => modify CurlConnectionImpl.resetHeaders
  | .setFields fields => CurlConnectionImpl.setFields env fields
  | .setFieldsText fields => CurlConnectionImpl.setFieldsText env fields
  | .resetOptions => modify CurlConnectionImpl.resetOptions
  | .execute b => do let _ ← CurlConnectionImpl.execute env b
  | .close => modify CurlConnectionImpl.close

/-- The headers `GET_headers` should give after the call, from those it should give before. -/
def headersAfter : CurlCall → List (List Char × List Char) → List (List Char × List Char)
  | .addHeaders hs, acc => acc ++ hs
  | .resetHeaders, _ | .resetOptions, _ | .close, _ => []
  | _, acc => acc

/-- An `add_headers` call that returns normally, or any other call. -/
def Returns (env : Env) (call : CurlCall) (c : CurlConnectionImpl) : Prop :=
  ∀ hs, call = .addHeaders hs → ∃ c', call.run env c = .ok () c'

def Clean : CurlCall → Prop
  | .addHeaders hs => ∀ h ∈ hs, CleanHeader h
  | _ => True

instance : DecidablePred Clean := fun call => by
  cases call <;> unfold Clean <;> infer_instance

theorem run_list (env : Env) (call : CurlCall) {c : CurlConnectionImpl}
    {acc : List (List Char × List Char)} (h : HeaderList c acc) (hret : call.Returns env c) :
    HeaderList (Cpp.stateOf (call.run env c)) (call.headersAfter acc) := by
  have hreset : ListsKept c.resetHeaders c.resetOptions := ⟨rfl, rfl, le_rfl⟩
  have hclose : ListsKept c.resetHeaders c.close := ⟨rfl, rfl, le_rfl⟩
  cases call with
  | addHeaders hs =>
      obtain ⟨c', hc'⟩ := hret hs rfl
      rw [hc']
      exact CurlConnectionImpl.addHeaders_ok hs h hc'
  | resetHeaders => exact CurlConnectionImpl.resetHeaders_list h
  | resetOptions => exact (CurlConnectionImpl.resetHeaders_list h).of_kept hreset
  | close => exact (CurlConnectionImpl.resetHeaders_list h).of_kept hclose
  | setOption o v => exact h.of_kept (CurlConnectionImpl.setOption_keeps env o v c)
  | setUrl url => exact h.of_kept (CurlConnectionImpl.setOption_keeps₂ env _ _ _ _ c)
  | setSslVerify enabled => exact h.of_kept (CurlConnectionImpl.setSslVerify_keeps env enabled c)
  | setSslVerifyUsingCaBundle path =>
      exact h.of_kept (CurlConnectionImpl.setSslVerify_keeps₂ env _ _ c)
  | setSslVerifyUsingCaCerts dir =>
      exact h.of_kept (CurlConnectionImpl.setSslVerify_keeps₂ env _ _ c)
  | setEncoding enc => exact h.of_kept (CurlConnectionImpl.setOption_keeps env _ _ c)
  | setKeepalive enabled => exact h.of_kept (CurlConnectionImpl.setOption_keeps env _ _ c)
  | setTimeout timeout => exact h.of_kept (CurlConnectionImpl.setOption_keeps env _ _ c)
  | setFields fields => exact h.of_kept (CurlConnectionImpl.setFieldsText_keeps env _ c)
  | setFieldsText fields => exact h.of_kept (CurlConnectionImpl.setFieldsText_keeps env _ c)
  | execute b =>
      exact h.of_kept (Cpp.Keeps.bind listsKept_trans (CurlConnectionImpl.execute_keeps env b)
        (fun _ => Cpp.Keeps.pure listsKept_refl _) c)

theorem headersAfter_clean (call : CurlCall) (hc : call.Clean)
    {acc : List (List Char × List Char)} (hacc : ∀ x ∈ acc, CleanHeader x) :
    ∀ x ∈ call.headersAfter acc, CleanHeader x := by
  cases call <;> first
    | exact hacc
    | exact fun x hx => absurd hx (List.not_mem_nil x)
    | exact fun x hx => (List.mem_append.mp hx).elim (hacc x) (hc x)

end CurlCall

namespace CurlConnectionImpl

/-- A run of calls; a call that throws ends, and the run goes on from the state it left. -/
def runCalls (env : Env) : List CurlCall → CurlConnectionImpl → CurlConnectionImpl
  | [], c => c
  | call :: calls, c => runCalls env calls (Cpp.stateOf (call.run env c))

/-- Every `add_headers` call of the run returns normally. -/
def AddsReturn (env : Env) : List CurlCall → CurlConnectionImpl → Prop
  | [], _ => True
  | call :: calls, c => call.Returns env c ∧ AddsReturn env calls (Cpp.stateOf (call.run env c))

/-- The headers given to `add_headers` since the last `reset_headers`, `reset_options`
or `close`, in call order. -/
def headersSince (calls : List CurlCall) : List (List Char × List Char) :=
  calls.foldl (fun acc call => call.headersAfter acc) []

theorem runCalls_list (env : Env) (calls : List CurlCall) {c : CurlConnectionImpl}
    {acc : List (List Char × List Char)} (h : HeaderList c acc) (hret : AddsReturn env calls c)
    (hclean : ∀ call ∈ calls, call.Clean) (hacc : ∀ x ∈ acc, CleanHeader x) :
    HeaderList (runCalls env calls c) (calls.foldl (fun acc call => call.headersAfter acc) acc) ∧
      ∀ x ∈ calls.foldl (fun acc call => call.headersAfter acc) acc, CleanHeader x := by
  induction calls generalizing c acc with
  | nil => exact ⟨h, hacc⟩
  | cons call calls ih =>
      have hcall := hclean call (List.mem_cons_self _ _)
      exact ih (call.run_list env h hret.1) hret.2
        (fun d hd => hclean d (List.mem_cons_of_mem _ hd)) (call.headersAfter_clean hcall hacc)

/-- From construction, over every run of calls of the interface in which each
`add_headers` returns normally and has clean headers, `get_headers` returns the
headers added since the last `reset_headers`, `reset_options` or `close`, in order
and with duplicates, and `header_list_to_map` finds a `':'` in every node. -/
theorem getHeaders_runCalls (env : Env) (calls : List CurlCall) {c : CurlConnectionImpl}
    (hnew : new env = .ok c) (hret : AddsReturn env calls c) (hclean : ∀ call ∈ calls, call.Clean) :
    getHeaders (runCalls env calls c) = .ok (headersSince calls) ∧
      (headerListToMap (slistNodes (runCalls env calls c) (runCalls env calls c).header)).isSome := by
  obtain ⟨hlist, hc⟩ := runCalls_list env calls (new_list hnew) hret hclean (by simp)
  exact ⟨getHeaders_of_list hlist hc, hlist.nodes ▸ headerListToMap_nodes _ hc⟩

theorem getHeaders_runCalls_sample :
    new Env.accepting = .ok (Cpp.stateOf (ctorOptions Env.accepting (initial Env.accepting))) ∧
    AddsReturn Env.accepting
      [.addHeaders [("Accept".toList, "json".toList)], .resetHeaders, .setTimeout 5,
        .addHeaders [("A".toList, "1".toList), ("A".toList, "2".toList)]]
      (Cpp.stateOf (ctorOptions Env.accepting (initial Env.accepting))) ∧
    (∀ call ∈ [CurlCall.addHeaders [("Accept".toList, "json".toList)], .resetHeaders, .setTimeout 5,
        .addHeaders [("A".toList, "1".toList), ("A".toList, "2".toList)]], call.Clean) ∧
    getHeaders (runCalls Env.accepting
      [.addHeaders [("Accept".toList, "json".toList)], .resetHeaders, .setTimeout 5,
        .addHeaders [("A".toList, "1".toList), ("A".toList, "2".toList)]]
      (Cpp.stateOf (ctorOptions Env.accepting (initial Env.accepting)))) =
      .ok [("A".toList, "1".toList), ("A".toList, "2".toList)] := by
  have hret : AddsReturn Env.accepting
      [.addHeaders [("Accept".toList, "json".toList)], .resetHeaders, .setTimeout 5,
        .addHeaders [("A".toList, "1".toList), ("A".toList, "2".toList)]]
      (Cpp.stateOf (ctorOptions Env.accepting (initial Env.accepting))) :=
    by simp only [AddsReturn]
       exact ⟨fun _ _ => ⟨_, rfl⟩, (fun _ h => nomatch h), (fun _ h => nomatch h),
         fun _ _ => ⟨_, rfl⟩, trivial⟩
  exact ⟨rfl, hret, by decide, (getHeaders_runCalls Env.accepting _ rfl hret (by decide)).1⟩

/-- A NUL in a header name: the name holds no `": "`, yet the node `c_str()` copies
is cut at the NUL, so it has no `": "` and `get_headers` throws. -/
theorem getHeaders_nul_in_name :
    AddsReturn Env.accepting [.addHeaders [("a\x00".toList, "b".toList)]]
      (Cpp.stateOf (ctorOptions Env.accepting (initial Env.accepting))) ∧
    ¬ [':', ' '] <:+: "a\x00".toList ∧
    getHeaders (runCalls Env.accepting [.addHeaders [("a\x00".toList, "b".toList)]]
      (Cpp.stateOf (ctorOptions Env.accepting (initial Env.accepting)))) =
      .error (.curl "malformed header".toList) :=
  ⟨by simp only [AddsReturn]; exact ⟨fun _ _ => ⟨_, rfl⟩, trivial⟩, by decide, rfl⟩

theorem appendHeaders_frame (hs : List (List Char × List Char)) :
    Cpp.Keeps (fun c c' => c'.handle = c.handle ∧ c'.options = c.options)
      (appendHeaders env hs) := by
  induction hs with
  | nil => exact Cpp.Keeps.pure (fun _ => ⟨rfl, rfl⟩) ()
  | cons x hs ih =>
      intro c
      have hsl : ∀ d, (slistAppend env c c.header d).2.handle = c.handle ∧
          (slistAppend env c c.header d).2.options = c.options := by
        intro d; unfold slistAppend; split_ifs <;> exact ⟨rfl, rfl⟩
      simp only [appendHeaders]
      split_ifs
      · exact hsl _
      · obtain ⟨h1, h2⟩ := ih _
        exact ⟨h1.trans (hsl _).1, h2.trans (hsl _).2⟩

theorem appendHeaders_error {hs : List (List Char × List Char)} {c c' : CurlConnectionImpl}
    {e : CurlException} (h : appendHeaders env hs c = .error e c') :
    ∃ s, e = .option "curl_slist_append failed trying to add header".toList .httpHeader s := by
  induction hs generalizing c with
  | nil => cases h
  | cons x hs ih =>
      simp only [appendHeaders] at h
      split_ifs at h
      · cases h; exact ⟨_, rfl⟩
      · exact ih h

theorem setOption_error {o : CURLoption} {v : OptVal} {c c' : CurlConnectionImpl}
    {e : CurlException} (hv : v.isStr = false) (h : setOption env o v c = .error e c') :
    c' = c := by
  unfold setOption at h
  split at h
  · cases h; rfl
  · rename_i hh
    split at h <;> cases h
    rw [refusedHandle_of_not_str _ _ hv, ← hh]

/-- A throwing `add_headers` leaves the handle's options and `_options` as they were;
on a closed handle it changes nothing; and when it is the final
`CURLOPT_HTTPHEADER` that libcurl refused, every header has already been appended
to the list, which stays so. -/
theorem addHeaders_throw (hs : List (List Char × List Char)) {c c' : CurlConnectionImpl}
    {e : CurlException} (hthrow : addHeaders env hs c = .error e c') :
    c'.handle = c.handle ∧ c'.options = c.options ∧ (c.handle = none → c' = c) ∧
      ∀ acc v, HeaderList c acc → e = .optionRefused .httpHeader v →
        HeaderList c' (acc ++ hs) := by
  unfold addHeaders at hthrow
  split_ifs at hthrow with hclosed
  · cases hthrow
    exact ⟨rfl, rfl, fun _ => rfl, fun _ v _ hv => nomatch hv⟩
  have hopen : c.handle ≠ none := fun h => hclosed (by simp [h])
  rw [Cpp.bind_apply] at hthrow
  cases happ : appendHeaders env hs c with
  | ok _ c₁ =>
      rw [happ] at hthrow
      have hset : setOption env .httpHeader (.ptr c₁.header) c₁ = .error e c' := hthrow
      cases setOption_error (by rfl) hset
      have hf := (appendHeaders_frame hs).of_ok happ
      exact ⟨hf.1, hf.2, fun h => absurd h hopen, fun _ _ hlist _ => (appendHeaders_ok hs hlist happ).1⟩
  | error e₁ c₁ =>
      rw [happ] at hthrow
      cases hthrow
      have hf := (appendHeaders_frame hs).of_error happ
      obtain ⟨s, rfl⟩ := appendHeaders_error happ
      refine ⟨hf.1, hf.2, fun h => absurd h hopen, fun _ v _ hv => ?_⟩
      simp [CurlException.optionRefused] at hv

/-- The environment whose libcurl refuses `CURLOPT_HTTPHEADER` and accepts the rest. -/
def rejectsHeaders : Env := { Env.accepting with setopt := fun o _ => o != .httpHeader }

theorem addHeaders_throw_sample :
    HeaderList (initial rejectsHeaders) [] ∧
    addHeaders rejectsHeaders [("a".toList, "b".toList)] (initial rejectsHeaders) =
      .error (.optionRefused .httpHeader "2".toList)
        (Cpp.stateOf (addHeaders rejectsHeaders [("a".toList, "b".toList)] (initial rejectsHeaders))) ∧
    HeaderList (Cpp.stateOf (addHeaders rejectsHeaders [("a".toList, "b".toList)]
      (initial rejectsHeaders))) [("a".toList, "b".toList)] := by
  have hlist : HeaderList (initial rejectsHeaders) [] := ⟨by simp [initial], by simp [initial]⟩
  have hthrow : addHeaders rejectsHeaders [("a".toList, "b".toList)] (initial rejectsHeaders) =
      .error (.optionRefused .httpHeader "2".toList)
        (Cpp.stateOf (addHeaders rejectsHeaders [("a".toList, "b".toList)] (initial rejectsHeaders))) :=
    rfl
  exact ⟨hlist, hthrow, (addHeaders_throw [("a".toList, "b".toList)] hthrow).2.2.2 [] _ hlist rfl⟩

/-- A throwing `add_headers` does not leave `_header` as it was: when libcurl refuses
the final `CURLOPT_HTTPHEADER`, the header is already in a new list. -/
theorem addHeaders_throw_changes_list :
    new rejectsHeaders = .ok (Cpp.stateOf (ctorOptions rejectsHeaders (initial rejectsHeaders))) ∧
    addHeaders rejectsHeaders [("a".toList, "b".toList)]
        (Cpp.stateOf (ctorOptions rejectsHeaders (initial rejectsHeaders))) =
      .error (.optionRefused .httpHeader "2".toList)
        (Cpp.stateOf (addHeaders rejectsHeaders [("a".toList, "b".toList)]
          (Cpp.stateOf (ctorOptions rejectsHeaders (initial rejectsHeaders))))) ∧
    (Cpp.stateOf (addHeaders rejectsHeaders [("a".toList, "b".toList)]
        (Cpp.stateOf (ctorOptions rejectsHeaders (initial rejectsHeaders))))).header ≠
      (Cpp.stateOf (ctorOptions rejectsHeaders (initial rejectsHeaders))).header :=
  ⟨rfl, rfl, by decide⟩

end CurlConnectionImpl

end CurlConnect

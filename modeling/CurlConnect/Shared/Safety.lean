import CurlConnect.Shared.Locks

/-!
What `Inv` says about the registry and the URLs of the front-ends.

* The count of every id is the number of open front-ends bound to it, whichever side of
  `contexts[context_id] = Context(...)` is evaluated first. When the right side goes first
  (C++17), the registry holds an id exactly when an open front-end is bound to it, every
  entry has a connection, and no assertion fails. When the left side goes first, a
  constructor whose `HTTPConnection` throws leaves a default entry behind, and the next
  constructor on that id fails `assert(nref > 0)`.
* The two protocol tests agree, and every front-end's URL is empty or passes them, so the
  `execute` of a front-end with a URL never throws `"invalid protocol in url: ..."`.
* Every connection of the registry verifies peer and host whenever it is on `https`, so
  every request to an `https` URL is performed with both on.
-/

namespace CurlConnect

open SharedHTTPConnection

variable {env : Env} {order : EvalOrder} {s : Sys}

/-- In every evaluation order, `nconnections(id)` is the number of open front-ends bound
to `id`. -/
theorem nconnections_eq_openCount (h : Reachable env order s) (cid : Int) :
    nconnections s.contexts cid = openCount s.objs cid :=
  (Inv.reachable env h).count cid

theorem nconnections_eq_openCount_nestedRun :
    nconnections nestedRun.contexts 1 = openCount nestedRun.objs 1 :=
  nconnections_eq_openCount nestedRun_reachable 1

/-- When the right side of `contexts[context_id] = Context(...)` is evaluated first, the
registry holds an id exactly when an open front-end is bound to it, counts those
front-ends, holds a connection for it, and no assertion of the registry fails. -/
theorem registry_matches_open_frontEnds (h : Reachable env .rhsFirst s) (cid : Int) :
    ((s.contexts cid).isSome ↔ 0 < openCount s.objs cid) ∧
      nconnections s.contexts cid = openCount s.objs cid ∧
      (∀ ctx, s.contexts cid = some ctx → ctx.conn.isSome) ∧ ∀ t, s.pc t ≠ .aborted := by
  have hinv := Inv.reachable env h
  have hshape : ∀ ctx, s.contexts cid = some ctx → ctx.conn.isSome ∧ 0 < ctx.nref :=
    fun ctx hx => by
      rcases hinv.shapes cid ctx hx with ⟨hc, hn, -⟩ | ⟨h, -⟩
      · exact ⟨hc, hn⟩
      · cases h
  have hcount := hinv.count cid
  refine ⟨⟨fun hsome => ?_, fun hpos => ?_⟩, hcount, fun ctx hx => (hshape ctx hx).1,
    fun t hp => nomatch (hinv.pcAt hp)⟩
  · obtain ⟨ctx, hx⟩ := Option.isSome_iff_exists.mp hsome
    have := (hshape ctx hx).2
    simp only [nconnections, hx] at hcount
    omega
  · cases hx : s.contexts cid with
    | none => simp only [nconnections, hx] at hcount; omega
    | some ctx => rfl

theorem registry_matches_open_frontEnds_nestedRun :
    (nestedRun.contexts 1).isSome ∧ nconnections nestedRun.contexts 1 = 1 ∧
      ∀ t, nestedRun.pc t ≠ .aborted :=
  have h := registry_matches_open_frontEnds nestedRun_reachable 1
  ⟨h.1.mpr (by decide), h.2.1.trans (by decide), h.2.2.2⟩

/-- With the left side of `contexts[context_id] = Context(...)` evaluated first, a
constructor whose `HTTPConnection` throws on the URL `ftp://x` leaves a default entry for
id 7, with no connection and no front-end, and the next constructor on id 7 fails
`assert(nref > 0)`. -/
theorem construct_failure_leaves_default_entry :
    ∃ s, Reachable Env.accepting .lhsFirst s ∧ s.contexts 7 = some Context.default ∧
      openCount s.objs 7 = 0 ∧ s.pc 1 = .aborted := by
  have h₁ : Reachable Env.accepting .lhsFirst _ :=
    (Reachable.init.call 0 (.construct "ftp://x".toList .httpGet 7) rfl
      (owns_of_objects_nil _ _ rfl)).lockGlobal 0 rfl rfl
  exact ⟨_, (h₁.call 1 (.construct "https://h".toList .httpGet 7) rfl
    (owns_of_objects_nil _ _ rfl)).lockGlobal 1 rfl rfl, rfl, rfl, rfl⟩

/-- `SharedHTTPConnection::set_url` accepts exactly the URLs the test of
`HTTPConnection::set_url` accepts, `HTTPConnection::set_url` throws
`"invalid protocol in url: ..."` exactly on the others, and those it accepts are the URLs that
begin with `https://` or `http://`; and the `execute` of any front-end with a non-empty URL, in
any state of any interleaving, throws no `"invalid protocol in url: ..."`. -/
theorem url_tests_agree_and_execute_keeps_protocol :
    (∀ url fe, (∃ fe', SharedHTTPConnection.setUrl url fe = .ok () fe') ↔
      httpProtocolOk url = true) ∧
    (∀ env url h, (∃ h', HTTPConnection.setUrl env url h = .error (.invalidProtocol url) h') ↔
      httpProtocolOk url = false) ∧
    (∀ url, httpProtocolOk url = true ↔ "https://".toList <+: url ∨ "http://".toList <+: url) ∧
    ∀ env order s, Reachable env order s → ∀ (i : Nat) (o : Slot), s.objs[i]? = some o →
      o.fe.url ≠ [] →
      ∀ b, Cpp.Raises CurlException.NotInvalidProtocol (executeLocked env o.fe b) := by
  refine ⟨fun url fe => ?_, fun env url h => ⟨fun ⟨h', hr⟩ => ?_, fun hp => ?_⟩, fun url => ?_,
    fun env order s h i o ho hurl b => ?_⟩
  · unfold SharedHTTPConnection.setUrl
    rw [← httpProtocolOk_eq_matchPrefix]
    split <;> simp_all
  · cases hp : httpProtocolOk url
    · rfl
    · exact (HTTPConnection.setUrl_raises env hp h _ h' hr url rfl).elim
  · exact ⟨h, HTTPConnection.setUrl_invalid env hp h⟩
  · rw [httpProtocolOk_eq_matchPrefix, matchPrefix_protoRx]
    simp [List.isPrefixOf_iff_prefix]
  · rcases (Inv.reachable env h).urls o (List.getElem?_mem ho) with hnil | hok
    · exact absurd hnil hurl
    · exact executeLocked_raises env b hok

theorem url_tests_agree_and_execute_keeps_protocol_nestedRun :
    Cpp.Raises CurlException.NotInvalidProtocol
      (executeLocked Env.accepting (opened "https://h".toList .httpGet 1) false) :=
  url_tests_agree_and_execute_keeps_protocol.2.2.2 _ _ nestedRun nestedRun_reachable 0
    ⟨0, opened "https://h".toList .httpGet 1⟩ rfl (by simp [opened]) false

/-- Every connection of the registry that is on `https` verifies peer and host, and the
`execute` of any front-end whose URL begins with `https://` reaches `curl_easy_perform` on
such a connection with `CURLOPT_SSL_VERIFYPEER` at 1 and `CURLOPT_SSL_VERIFYHOST` at 2,
whatever requests ran on it before. -/
theorem https_requests_verify_peer_and_host (h : Reachable env order s) {cid : Int}
    {ctx : Context} {conn : HTTPConnection} (hx : s.contexts cid = some ctx)
    (hc : ctx.conn = some conn) :
    conn.TlsOk ∧ ∀ fe b h', "https://".toList <+: fe.url →
      atPerform env fe b conn = some h' → h'.impl.TlsOn := by
  have hok := ((Inv.reachable env h).shapes cid ctx hx).tlsOk conn hc
  exact ⟨hok, fun fe b h' hurl hat => atPerform_tlsOn env hurl hok hat⟩

theorem https_requests_verify_peer_and_host_nestedRun :
    ∃ conn h', (nestedRun.contexts 1).bind Context.conn = some conn ∧
      atPerform Env.accepting (opened "https://h".toList .httpGet 1) false conn = some h' ∧
      h'.impl.TlsOn := by
  obtain ⟨conn, hb⟩ := Option.isSome_iff_exists.mp
    (by decide : ((nestedRun.contexts 1).bind Context.conn).isSome = true)
  obtain ⟨ctx, hx, hc⟩ := Option.bind_eq_some.mp hb
  have hsome : (((nestedRun.contexts 1).bind Context.conn).bind
      (atPerform Env.accepting (opened "https://h".toList .httpGet 1) false)).isSome = true := by
    decide
  rw [hb, Option.some_bind] at hsome
  obtain ⟨h', hat⟩ := Option.isSome_iff_exists.mp hsome
  exact ⟨conn, h', hb, hat, (https_requests_verify_peer_and_host nestedRun_reachable hx hc).2 _
    false h' ⟨"h".toList, rfl⟩ hat⟩

end CurlConnect

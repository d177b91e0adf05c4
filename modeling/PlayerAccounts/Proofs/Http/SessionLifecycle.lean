import PlayerAccounts.Proofs.Http.SessionTokens
/-!
# What session tokens open after a run

After any run of operations on empty tables, a token lets in the user with whom it is live, and nobody
else. The service, the login with a token and the endpoints that need a session agree on it.
-/
namespace PlayerAccounts.Http
set_option autoImplicit false

open PlayerAccounts.Account
open PlayerAccounts.Service
open PlayerAccounts.Service.Action
open PlayerAccounts.Store

/-! ## What is meant -/

/-- What a request with a token comes to: it is accepted for the user with whom the token is live. If the
token is live with nobody, and only then, it is refused, and the tables stay as they are. -/
structure Answers (history : List Performed) (token : String) (t : Tables) (r : Request)
    (result : Response × Tables) (accepted : String → Prop) : Prop where
  accepted : ∀ id, Live history id token → accepted id
  refused_iff : result.1 = tokenRefused r ↔ ∀ id, ¬ Live history id token
  unchanged : (∀ id, ¬ Live history id token) → result.2 = t

/-- What a token opens: the account of the user with whom it is live, on every way in. -/
structure TokenOpens (history : List Performed) (t : Tables) (token : String) : Prop where
  validated : ∀ now id, ((validateToken now token).eval t).1 = .ok id ↔ Live history id token
  refused : (∀ id, ¬ Live history id token) →
    ∀ now, (validateToken now token).eval t = (.error .invalidToken, t)
  resumed : ∀ o id, Live history id token →
    ∃ user, user.id = id ∧ ((loginWithToken o token).eval t).1 = .ok ⟨user, some token⟩
  sent : ∀ sealer o r, Hits r .tokenLogin → r.document Api.tokenLogin = .ok ⟨token⟩ →
    Answers history token t r (served sealer o r t) fun id => ∃ user, user.id = id ∧
      (served sealer o r t).1 = Response.ok (Api.session.encode ⟨user, some token⟩)
  shown : Presentable token → ∀ sealer o r endpoint action before after, Hits r endpoint →
    forUser? sealer o r endpoint = some action →
    r.header? "authorization" = some (bearerHeader before token after) →
    Answers history token t r (served sealer o r t) fun id =>
      ∃ row, Opens t token id row ∧ served sealer o r t =
        (trimmed r ((respond (action id)).eval (t.putToken (row.used o.first))).1,
          ((respond (action id)).eval (t.putToken (row.used o.first))).2)

/-! ## Ways in -/

section Ways
variable {history : List Performed} {t : Tables} {token : String} {sealer : Sealer} {o : Occasion}
  {r : Request}

/-- It is enough to know what a request comes to if the token opens an account, and if it does not. -/
theorem answers_of {accepted : String → Prop} {result : Response × Tables}
    (hlive : ∀ id, (∃ row, Opens t token id row) ↔ Live history id token)
    (haccepted : ∀ id row, Opens t token id row → accepted id ∧ result.1 ≠ tokenRefused r)
    (hrefused : (∀ id row, ¬ Opens t token id row) → result = (tokenRefused r, t)) :
    Answers history token t r result accepted := by
  have hnobody : (∀ id, ¬ Live history id token) → result = (tokenRefused r, t) := by
    intro hno
    exact hrefused fun id row ho => hno id ((hlive id).mp ⟨row, ho⟩)
  refine ⟨?_, ⟨?_, ?_⟩, ?_⟩
  · intro id hl
    obtain ⟨row, ho⟩ := (hlive id).mpr hl
    exact (haccepted id row ho).1
  · intro heq id hl
    obtain ⟨row, ho⟩ := (hlive id).mpr hl
    exact (haccepted id row ho).2 heq
  · intro hno
    rw [hnobody hno]
  · intro hno
    rw [hnobody hno]

theorem answers_sent (h : t.Sound) (hlive : ∀ id, (∃ row, Opens t token id row) ↔ Live history id token)
    (hr : Hits r .tokenLogin) (hd : r.document Api.tokenLogin = .ok ⟨token⟩) :
    Answers history token t r (served sealer o r t) fun id => ∃ user, user.id = id ∧
      (served sealer o r t).1 = Response.ok (Api.session.encode ⟨user, some token⟩) := by
  have hm : r.method ≠ .head := by
    rw [List.mem_singleton.mp hr.method]
    decide
  have hserved : served sealer o r t = (respond (tokenLogin o r)).eval t := by
    rw [served_of_hit sealer o t hr, trimmed_of_ne_head hm]
    rfl
  have hbody : (tokenLogin o r).eval t =
      (loginWithToken o token >>= fun session => pure (Response.ok (Api.session.encode session))).eval t :=
    eval_bind_ok (eval_bodyOf_ok hd t)
  apply answers_of hlive
  · intro id row ho
    obtain ⟨user, t', hid, hres⟩ := loginWithToken_granted h o ho
    have hresponse : (tokenLogin o r).eval t =
        (.ok (Response.ok (Api.session.encode ⟨user, some token⟩)), t') := by
      rw [hbody, eval_bind_ok hres, eval_pure]
    rw [hserved, eval_respond_ok hresponse]
    refine ⟨⟨user, hid, rfl⟩, fun heq => ?_⟩
    have hstatus := congrArg Response.status heq
    rw [tokenRefused, status_trimmed] at hstatus
    exact absurd hstatus (by decide : 200 ≠ 401)
  · intro hno
    have hresponse : (tokenLogin o r).eval t = (.error .invalidToken, t) := by
      rw [hbody, eval_bind_error (loginWithToken_refused o hno)]
    rw [hserved, eval_respond_error hresponse, tokenRefused, trimmed_of_ne_head hm]

theorem answers_shown (h : t.Sound) (hlive : ∀ id, (∃ row, Opens t token id row) ↔ Live history id token)
    {endpoint : Endpoint} {action : String → Action Response} (hr : Hits r endpoint)
    (ha : forUser? sealer o r endpoint = some action) (hb : r.bearer = .ok token) :
    Answers history token t r (served sealer o r t) fun id =>
      ∃ row, Opens t token id row ∧ served sealer o r t =
        (trimmed r ((respond (action id)).eval (t.putToken (row.used o.first))).1,
          ((respond (action id)).eval (t.putToken (row.used o.first))).2) := by
  apply answers_of hlive
  · intro id row ho
    have hserved := served_in_session h hr ha ⟨token, hb, ho⟩
    refine ⟨⟨row, ho, hserved⟩, ?_⟩
    rw [hserved]
    exact response_of_notRefused (notRefused_forUser (h.putUsed ho.found o.first) hr ha id)
  · intro hno
    have hsession : (sessionUser o r).eval t = (.error .invalidToken, t) := by
      rw [eval_sessionUser hb, validateToken_refused o.first hno]
    exact served_without_session hr ha hsession

end Ways

/-! ## After a run -/

theorem tokens_open_after_run (sealer : Sealer) {run : List (Occasion × Operation)}
    (htokens : ∀ turn ∈ run, isToken turn.1.token = true) (token : String) :
    TokenOpens (performAll sealer .empty run).1 (performAll sealer .empty run).2 token := by
  have h : (performAll sealer .empty run).2.Sound := sound_performAll .empty sealer run
  have hlive := fun id => opens_iff_live sealer htokens id token
  constructor
  · intro now id
    rw [validateToken_ok_iff h, hlive]
  · intro hno now
    exact validateToken_refused now fun id row ho => hno id ((hlive id).mp ⟨row, ho⟩)
  · intro o id hl
    obtain ⟨row, ho⟩ := (hlive id).mpr hl
    obtain ⟨user, t', hid, hres⟩ := loginWithToken_granted h o ho
    exact ⟨user, hid, by rw [hres]⟩
  · intro sealer o r hr hd
    exact answers_sent h hlive hr hd
  · intro ht sealer o r endpoint action before after hr ha hb
    exact answers_shown h hlive hr ha (bearer_of_header ht hb)

/-- A token that is drawn a second time, after the session that it opened was ended, is live again. -/
theorem token_opens_when_drawn_again :
    let o : Occasion := { (default : Occasion) with
      userId := "ann", token := drawnToken 7, salt := drawnSalt 1 }
    let run := [(o, Operation.register ⟨"Ann", "correct horse", none, true⟩), (o, .logout "ann"),
      (o, .loginWithToken (drawnToken 7)), (o, .issueToken "ann")]
    let history := (performAll ⟨4⟩ .empty run).1
    (∀ turn ∈ run, isToken turn.1.token = true) ∧ Live history "ann" (drawnToken 7) ∧
      TokenOpens history (performAll ⟨4⟩ .empty run).2 (drawnToken 7) := by
  intro o run history
  have hdrawn : ∀ turn ∈ run, turn.1.token = drawnToken 7 := by simp [run, o]
  have htokens : ∀ turn ∈ run, isToken turn.1.token = true := by
    intro turn hturn
    rw [hdrawn turn hturn]
    decide +kernel
  have htoken : tokenOf (performAll ⟨4⟩ .empty run).2 "ann" = some (drawnToken 7) := by
    subst history run o
    decide +kernel
  have hlive : Live history "ann" (drawnToken 7) := by
    rcases (performAll_sessions ⟨4⟩ run "ann" _ .empty).mp htoken with hlive | ⟨hnone, _⟩
    · exact hlive
    · exact nomatch hnone
  exact ⟨htokens, hlive, tokens_open_after_run ⟨4⟩ htokens (drawnToken 7)⟩

end PlayerAccounts.Http

import DocCheck.Http.Server
import DocCheck.Proofs.Answer
import DocCheck.Ruleset.Standard

set_option autoImplicit false

namespace DocCheck

open Text

/-- The last pair for `fix`, if there is one, says true. -/
def Query.asksFix (pairs : List (List Char × List Char)) : Bool :=
  ((pairs.filter fun pair => pair.1 = "fix".toList).getLast?).any fun pair =>
    eqIgnoringCase pair.2 "true".toList

theorem LintOptions.fix_set (options : LintOptions) (pair : List Char × List Char) :
    (options.set pair).fix =
      if pair.1 = "fix".toList then eqIgnoringCase pair.2 "true".toList else options.fix := by
  unfold set
  by_cases filename : pair.1 = "filename".toList
  · have other : pair.1 ≠ "fix".toList := by
      rw [filename]
      decide
    rw [if_pos filename, if_neg other]
  · rw [if_neg filename]
    split <;> rfl

theorem LintOptions.fix_ofPairs (pairs : List (List Char × List Char)) :
    (ofPairs pairs).fix = Query.asksFix pairs := by
  -- On the pairs from the last one, since of equal keys the last counts.
  induction pairs using List.reverseRecOn with
  | nil => rfl
  | append_singleton before pair ih =>
    have step : (ofPairs (before ++ [pair])).fix = ((ofPairs before).set pair).fix := by
      rw [ofPairs, List.foldl_append]
      rfl
    rw [step, fix_set, Query.asksFix, List.filter_append]
    by_cases fix : pair.1 = "fix".toList
    · rw [if_pos fix, List.filter_cons_of_pos (by simpa using fix), List.filter_nil,
        List.getLast?_concat]
      rfl
    · rw [if_neg fix, List.filter_cons_of_neg (by simpa using fix), List.filter_nil,
        List.append_nil]
      exact ih

namespace Http

theorem Target.head?_lintPath : lintPath.head? = some 47 := by
  decide +kernel

/-- An answer that comes in one piece is passed on as it is. -/
theorem AccessLog.handle_of_single (verbosity : Nat) (next : Arrival → Response)
    (arrival : Arrival) {bytes : List UInt8} (single : (next arrival).pieces = [some bytes]) :
    (handle verbosity next arrival).1 = next arrival := by
  have whole : Response.gather? (next arrival).pieces = some bytes := by
    rw [single]
    exact congrArg some (List.append_nil bytes)
  match verbosity with
  | 0 => rfl
  | 1 => rfl
  | _ + 2 =>
    show (relay (next arrival)).1 = next arrival
    rw [relay, whole]
    show { next arrival with pieces := [some bytes] } = next arrival
    rw [← single]

namespace Service

/-- The response to a request does not depend on the verbosity of the log. -/
theorem serve_response (service : Service) (verbosity : Nat) (arrival : Arrival) :
    (service.serve verbosity arrival).1 =
      let response := Response.ofReply (service.reply arrival.request arrival.inTime)
      if arrival.request.method = "HEAD" then response.withoutBody else response := by
  have passed := AccessLog.handle_of_single verbosity
    (fun arrival => .ofReply (service.reply arrival.request arrival.inTime)) arrival rfl
  rw [serve, passed]

theorem serve_answer (service : Service) (verbosity : Nat) {arrival : Arrival}
    (inTime : arrival.inTime = true) :
    let response := (service.serve verbosity arrival).1
    let answer := service.answer arrival.request
    response.status = answer.status ∧ response.contentType = answer.contentType ∧
      Response.gather? response.pieces = some (String.ofList answer.body).toUTF8.data.toList := by
  rw [serve_response, answer, inTime]
  by_cases head : arrival.request.method = "HEAD"
  · simp only [head, if_true]
    exact ⟨rfl, rfl, rfl⟩
  · simp only [head, if_false]
    exact ⟨rfl, rfl, congrArg some (List.append_nil _)⟩

variable {service other : Service}

theorem serve_congr (verbosity others : Nat) {p q : Arrival}
    (method : p.request.method = q.request.method)
    (reply : service.reply p.request p.inTime = other.reply q.request q.inTime) :
    (service.serve verbosity p).1 = (other.serve others q).1 := by
  rw [serve_response, serve_response, method, reply]

/-- A lint request is answered with the report of its text. -/
theorem lint_eq (service : Service) (options : LintOptions) (text : List Char) :
    service.lint options text =
      if service.overflows text options.fix then Refusal.crashed.reply
      else ⟨200, some "application/json",
        reportJson (service.ruleset.report text options.fix)⟩ := by
  have report := Engine.standard_report service.ruleset
    ⟨String.ofList options.filename, text⟩ options.fix
  rw [← report]
  rfl

theorem lint_congr (ruleset : service.ruleset = other.ruleset) {options given : LintOptions}
    (fix : options.fix = given.fix) (text : List Char) :
    service.lint options text = other.lint given text := by
  rw [lint_eq, lint_eq, overflows, overflows, ruleset, fix]

theorem mdx_congr (checkMdx : service.checkMdx = other.checkMdx) (text : List Char) :
    service.mdx text = other.mdx text := by
  rw [mdx, mdx, checkMdx]

/-- The same body is refused under the same limit or asks for jobs that are done alike. -/
theorem reply_congr {p q : Request} {job others : List Char → Job}
    (taken : service.accept p = (service.readBody p.body).map job)
    (otherTaken : other.accept q = (other.readBody q.body).map others)
    (maxBodyBytes : service.maxBodyBytes = other.maxBodyBytes) (body : p.body = q.body)
    (alike : ∀ text, service.perform (job text) = other.perform (others text)) :
    service.reply p true = other.reply q true := by
  have same : service.readBody p.body = other.readBody q.body := by
    rw [readBody, readBody, maxBodyBytes, body]
  rw [reply, reply, taken, otherTaken, same]
  cases other.readBody q.body with
  | error refusal => rfl
  | ok text => exact alike text

end Service

namespace Arrival

/-- A POST request to the path that lints. -/
structure Lints (arrival : Arrival) : Prop where
  post : arrival.request.method = "POST"
  path : arrival.target.path = Target.lintPath

/-- A POST request to another path that something answers for. -/
structure Checks (arrival : Arrival) : Prop where
  post : arrival.request.method = "POST"
  routed : arrival.target.isRouted = true
  path : arrival.target.path ≠ Target.lintPath

/-- A request that is not POST, to a path that something answers for. -/
structure Refused (arrival : Arrival) : Prop where
  method : arrival.request.method ≠ "POST"
  routed : arrival.target.isRouted = true

variable {arrival : Arrival}

theorem Lints.accept (lints : arrival.Lints) (service : Service) :
    service.accept arrival.request = (service.readBody arrival.request.body).map
      (.lint (LintOptions.ofPairs (Query.pairs arrival.target.query))) := by
  have routed : (Target.ofUri arrival.request.uri).isRouted = true := by
    have path := lints.path
    rw [target] at path
    rw [Target.isRouted, path, Target.head?_lintPath]
    rfl
  have job : Job.ofTarget (Target.ofUri arrival.request.uri) =
      .lint (LintOptions.ofPairs (Query.pairs arrival.target.query)) :=
    funext fun text => if_pos lints.path
  simp only [Service.accept, routed, lints.post, job]
  rfl

theorem Checks.accept (checks : arrival.Checks) (service : Service) :
    service.accept arrival.request = (service.readBody arrival.request.body).map .check := by
  have routed : (Target.ofUri arrival.request.uri).isRouted = true := checks.routed
  have job : Job.ofTarget (Target.ofUri arrival.request.uri) = .check :=
    funext fun text => if_neg checks.path
  simp only [Service.accept, routed, checks.post, job]
  rfl

theorem Refused.accept (refused : arrival.Refused) (service : Service) :
    service.accept arrival.request = .error .methodNotAllowed := by
  have routed : (Target.ofUri arrival.request.uri).isRouted = true := refused.routed
  simp [Service.accept, routed, refused.method]

end Arrival

/-- A lint request whose work ends in time is answered by the ruleset, the length limit, its body and
whether its last pair for `fix` says true. A check that ends in time is answered by the parser, the
length limit and its body. Any other request to a path that something answers for is told that its
method is not allowed. Nothing else plays a part: neither other pairs nor headers, nor the access log. -/
theorem serve_alike (service other : Service) (verbosity others : Nat) (p q : Arrival) :
    (p.Lints → q.Lints → p.inTime = true → q.inTime = true →
      service.ruleset = other.ruleset → service.maxBodyBytes = other.maxBodyBytes →
      p.request.body = q.request.body →
      Query.asksFix (Query.pairs p.target.query) = Query.asksFix (Query.pairs q.target.query) →
        (service.serve verbosity p).1 = (other.serve others q).1) ∧
    (p.Checks → q.Checks → p.inTime = true → q.inTime = true →
      service.checkMdx = other.checkMdx → service.maxBodyBytes = other.maxBodyBytes →
      p.request.body = q.request.body →
        (service.serve verbosity p).1 = (other.serve others q).1) ∧
    (p.Refused → q.Refused → p.request.method = q.request.method →
      (service.serve verbosity p).1 = (other.serve others q).1 ∧
        (service.serve verbosity p).1.status = 405) := by
  refine ⟨?_, ?_, ?_⟩
  · intro here there inTime alsoInTime ruleset limit body fix
    apply Service.serve_congr _ _ (here.post.trans there.post.symm)
    rw [inTime, alsoInTime]
    apply Service.reply_congr (here.accept service) (there.accept other) limit body
    intro text
    apply Service.lint_congr ruleset
    rw [LintOptions.fix_ofPairs, LintOptions.fix_ofPairs, fix]
  · intro here there inTime alsoInTime checkMdx limit body
    apply Service.serve_congr _ _ (here.post.trans there.post.symm)
    rw [inTime, alsoInTime]
    apply Service.reply_congr (here.accept service) (there.accept other) limit body
    exact Service.mdx_congr checkMdx
  · intro here there method
    have left : service.reply p.request p.inTime = Refusal.methodNotAllowed.reply := by
      rw [Service.reply, here.accept]
    have right : other.reply q.request q.inTime = Refusal.methodNotAllowed.reply := by
      rw [Service.reply, there.accept]
    refine ⟨Service.serve_congr _ _ method (left.trans right.symm), ?_⟩
    rw [Service.serve_response, left]
    split <;> rfl

/-- Two lint requests that ask for repairs, two checks, and two GET requests of which one has a body
that is no text. -/
theorem serve_alike_pairs :
    let service : Service := ⟨.embedded, 64, fun _ => .accepted⟩
    let strict : Service := ⟨.all, 64, fun _ => .accepted⟩
    let noted : List (String × List UInt8) := [("Content-Length", [51])]
    (service.serve 0 ⟨⟨"POST", "/markdownlint?fix=true", "#A\n".toUTF8⟩, [], true⟩).1 =
      (service.serve 2 ⟨⟨"POST", "http://docs/markdownlint?fix=no&filename=a.md&fix=%54RUE",
        "#A\n".toUTF8⟩, noted, true⟩).1 ∧
    (service.serve 0 ⟨⟨"POST", "/", "#A\n".toUTF8⟩, [], true⟩).1 =
      (strict.serve 2 ⟨⟨"POST", "/markdownlint/?fix=true", "#A\n".toUTF8⟩, noted, true⟩).1 ∧
    (service.serve 0 ⟨⟨"GET", "/", "#A\n".toUTF8⟩, [], true⟩).1 =
      (strict.serve 2 ⟨⟨"GET", "/markdownlint", ⟨#[255]⟩⟩, noted, false⟩).1 ∧
    (service.serve 0 ⟨⟨"GET", "/", "#A\n".toUTF8⟩, [], true⟩).1.status = 405 := by
  intro service strict noted
  refine ⟨?_, ?_, ?_⟩
  · exact (serve_alike service service 0 2 _ _).1 ⟨rfl, by decide +kernel⟩ ⟨rfl, by decide +kernel⟩ rfl rfl rfl rfl rfl
      (by decide +kernel)
  · exact (serve_alike service strict 0 2 _ _).2.1 ⟨rfl, by decide +kernel, by decide +kernel⟩
      ⟨rfl, by decide +kernel, by decide +kernel⟩ rfl rfl rfl rfl rfl
  · exact (serve_alike service strict 0 2 _ _).2.2 ⟨by decide, by decide +kernel⟩ ⟨by decide, by decide +kernel⟩ rfl

end Http

end DocCheck

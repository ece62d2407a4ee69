import Exposition.Proofs.Json.Writing
import Exposition.Proofs.Service.Endpoint

/-!
# Proofs/Service/Hearing — the response that a request ends with

A remote service **hears** a response from some URL if that is how the exchange of a request ends,
after any redirects.  Its reply is what the response makes (`answer_of_hears`): with a status of
success and a whole body, that is up to what the body holds.
-/

namespace Exposition

namespace Request

/-- With success and a whole body, the reply is up to what the body holds. -/
theorem replyOf_of_success (r : Request) (url : Url) {response : Http.Response}
    (success : Http.isSuccess response.status) (complete : response.isComplete) :
    r.replyOf url response = ((r.readBody response.body).map r.replyOfContent).getD
      (.error (malformedBody url)) := by
  rw [replyOf, if_pos success, readResponse, if_pos complete]
  cases r.readBody response.body with
  | _ => rfl

end Request

namespace Remote

variable {ν : Type} [Http.Network ν] {s : Remote ν} {r : Request} {url : Url}
  {response : Http.Response}

/-- **A service hears a response** from some URL, in the end, to a request. -/
def Hears (s : Remote ν) (r : Request) (url : Url) (response : Http.Response) : Prop :=
  ∃ request network, outgoing s.base r = .ok request
    ∧ Http.exchange request s.network = (.ok (url, response), network)

/-- **The reply is what the response makes.** -/
theorem answer_of_hears (heard : s.Hears r url response) :
    (Service.answer r s).1 = r.replyOf url response := by
  obtain ⟨request, network, asked, ended⟩ := heard
  simp only [Service.answer, asked, ended]
  rfl

/-- A response that leads to no other place ends the exchange. -/
theorem exchange_of_final {request : Http.Request} {network network' : ν}
    (web : Http.isWeb request.url)
    (sent : Http.Network.send request network = (some response, network'))
    (final : response.location = none) :
    Http.exchange request network = (.ok (request.url, response), network') := by
  have ends : request.next? response = none := by
    rw [Http.Request.next?, final]
    rfl
  rw [Http.exchange, Http.follow, web, sent]
  simp only [ends]
  rfl

/-- A response that comes to every request and leads to no other place is heard. -/
theorem hears_of_send {segments : List String} (rooted : s.base.path = .segments segments)
    (web : Http.isWeb s.base)
    (sent : ∀ request, ∃ network, Http.Network.send request s.network = (some response, network))
    (final : response.location = none) : ∃ url, s.Hears r url response := by
  obtain ⟨target, asked, web'⟩ : ∃ target, endpoint s.base r = .ok target ∧ Http.isWeb target :=
    ⟨_, endpoint_eq rooted r, web⟩
  obtain ⟨network, answered⟩ := sent ⟨r.method, target, r.body?.map Json.compact⟩
  refine ⟨target, _, network, ?_, exchange_of_final web' answered final⟩
  rw [outgoing, asked]
  rfl

/-- The service at some address, over a network that has one answer to give. -/
def telling (answer : Json) : Remote Http.Scripted where
  base := ⟨"http", "", "", some (.name "h"), none, .segments [""], none, none⟩
  network := ⟨[some { body := Text.Utf8.encode answer.written }], []⟩

theorem hears_telling (answer : Json) (r : Request) : ∃ url,
    (telling answer).Hears r url { body := Text.Utf8.encode answer.written } :=
  hears_of_send rfl rfl (fun _ => ⟨_, rfl⟩) rfl

end Remote

end Exposition

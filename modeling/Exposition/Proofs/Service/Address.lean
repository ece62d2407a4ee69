import Exposition.Proofs.Service.Endpoint
import Exposition.Proofs.Url.Slash

/-!
# Proofs/Service/Address — endpoints below the address of the service

An address that is accepted is a URL of the web, and the endpoints of the service are meant to lie
below it: at the same host, with the path of the URL and their own path after it.  The address is
read once more with a slash at its end, and the endpoints lie below that (`endpoint_text`).  They
are below the address exactly if the slash has ended its path once, which a query, a fragment or a
space may keep it from.
-/

namespace Exposition

open Url

namespace Request

/-- The path of an endpoint after other segments. -/
theorem text_append_steps (segments : List String) (r : Request) :
    (Path.segments (segments ++ r.steps)).text
      = (Path.segments segments).text ++ "/" ++ r.path := by
  have own : (Path.segments r.steps).text = "/" ++ r.path := by
    rw [← String.toList_inj, Path.toList_text r.steps_ne_nil, ← r.toList_path, String.toList_append]
    rfl
  rw [Path.text_append, own, String.append_assoc]

end Request

namespace Remote

/-- **Where the endpoint with some path should be**: at the origin of the URL of the service, with
the path of that URL less the slashes at its end, a slash, and the path of the endpoint. -/
structure IsBelow (u : Url) (path : String) (url : Url) : Prop where
  origin : url.SameOrigin u
  path : url.path.text = u.path.stem ++ "/" ++ path

/-- **An address keeps its path** if it leads to a service, and every endpoint of that is below the
URL that the address is. -/
def KeepsAddress {ν : Type} (address : String) (network : ν) : Prop :=
  ∃ u s, Url.parse address = .ok u ∧ connect address network = .ok s ∧
    ∀ r, ∃ url, endpoint s.base r = .ok url ∧ IsBelow u r.path url

section Base

variable {base u : Url} {before : List String} {last : String}
  (path : base.path = .segments (before ++ [last]))

include path

/-- Where the endpoints of a base lie. -/
theorem endpoint_text (r : Request) : ∃ url, endpoint base r = .ok url ∧ url.SameOrigin base ∧
    url.path.text = (Path.segments before).text ++ "/" ++ r.path := by
  refine ⟨_, endpoint_eq path r, ⟨rfl, rfl, rfl⟩, ?_⟩
  rw [List.dropLast_concat, Request.text_append_steps]

/-- Endpoints below a URL show its path: all but the last segment of the path of the base. -/
theorem text_of_isBelow {r : Request} {url : Url} (found : endpoint base r = .ok url)
    (below : IsBelow u r.path url) : (Path.segments before).text = u.path.stem := by
  obtain ⟨url', found', -, text⟩ := endpoint_text path r
  obtain rfl := Except.ok.inj (found.symm.trans found')
  have texts := text.symm.trans below.path
  rwa [String.append_left_inj, String.append_left_inj] at texts

theorem isBelow_of_text (origin : base.SameOrigin u)
    (same : (Path.segments before).text = u.path.stem) (r : Request) :
    ∃ url, endpoint base r = .ok url ∧ IsBelow u r.path url := by
  obtain ⟨url, found, of, text⟩ := endpoint_text path r
  exact ⟨url, found, ⟨of.trans origin, same ▸ text⟩⟩

end Base

theorem isWeb_of_accepted {address : String} {u : Url} (accepted : checkApiUrl address = .ok ())
    (parsed : Url.parse address = .ok u) : u.IsWeb := by
  rw [checkApiUrl, parsed] at accepted
  by_contra other
  rw [IsWeb] at other
  simp only [other, if_false] at accepted
  cases accepted

section Connect

variable {ν : Type} {address : String} {network : ν}

theorem connect_of_parse {base : Url} (read : Url.parse (addSlash address) = .ok base) :
    connect address network = .ok ⟨base, network⟩ := by
  rw [connect, show slashed address = addSlash address from rfl, read]

theorem parse_of_connect {s : Remote ν} (connected : connect address network = .ok s) :
    Url.parse (addSlash address) = .ok s.base := by
  rw [connect, show slashed address = addSlash address from rfl] at connected
  split at connected
  · next base read =>
    obtain rfl := Except.ok.inj connected
    exact read
  · cases connected

end Connect

/-- **An accepted address keeps its path exactly if the address with a slash at its end is a URL
with one slash at the end of its path**, and no control or space comes before the slash outside of
query and fragment. -/
theorem keeps_address_iff {ν : Type} {address : String} {u : Url} (network : ν)
    (accepted : checkApiUrl address = .ok ()) (parsed : Url.parse address = .ok u) :
    KeepsAddress address network ↔
      (u.query = none ∧ u.fragment = none → blankEnd address.toList = []) ∧
        ∃ base, Url.parse (slashed address) = .ok base ∧ base.path.EndsInOneSlash := by
  have web := isWeb_of_accepted accepted parsed
  by_cases kept : u.query = none ∧ u.fragment = none → blankEnd address.toList = []
  · obtain ⟨base, before, last, readBase, origin, stem, path, noSlash⟩ :=
      parse_addSlash_of_kept parsed web kept
    have oneSlash : base.path.EndsInOneSlash ↔ (Path.segments before).text = u.path.stem := by
      rw [← stem, path]
      exact Path.endsInOneSlash_iff noSlash
    constructor
    · rintro ⟨v, s, parsed', connected, all⟩
      obtain rfl := Except.ok.inj (parsed.symm.trans parsed')
      obtain same := Except.ok.inj (readBase.symm.trans (parse_of_connect connected))
      obtain ⟨url, found, below⟩ := all .stats
      exact ⟨kept, base, readBase, oneSlash.2 (text_of_isBelow path (same ▸ found) below)⟩
    · rintro ⟨-, base', readBase', ending⟩
      obtain rfl := Except.ok.inj (readBase.symm.trans readBase')
      exact ⟨u, ⟨base, network⟩, parsed, connect_of_parse readBase,
        isBelow_of_text path origin (oneSlash.1 ending)⟩
  · refine iff_of_false ?_ fun both => kept both.1
    obtain ⟨plain, blank⟩ := Classical.not_imp.1 kept
    rintro ⟨v, s, parsed', connected, all⟩
    obtain rfl := Except.ok.inj (parsed.symm.trans parsed')
    obtain ⟨before, last, path, longer⟩ :=
      parse_addSlash_of_blank parsed web plain blank (parse_of_connect connected)
    obtain ⟨url, found, below⟩ := all .stats
    have path' : s.base.path = .segments (before ++ [last] ++ [""]) := by
      rw [path, List.append_assoc, List.singleton_append]
    rw [text_of_isBelow path' found below] at longer
    exact absurd u.path.length_stem_le (Nat.not_le.2 longer)

theorem keeps_address_of_slashes : checkApiUrl "HTTP://Backend.test:8080/a/../b///" = .ok () ∧
    KeepsAddress "HTTP://Backend.test:8080/a/../b///" () := by
  have accepted : checkApiUrl "HTTP://Backend.test:8080/a/../b///" = .ok () := by decide +kernel
  have parsed : Url.parse "HTTP://Backend.test:8080/a/../b///" = .ok
      { scheme := "http", host := some (.name "backend.test"), port := some 8080,
        path := .segments ["b", "", "", ""] } := by decide +kernel
  have slash : Url.parse (slashed "HTTP://Backend.test:8080/a/../b///") = .ok
      { scheme := "http", host := some (.name "backend.test"), port := some 8080,
        path := .segments ["b", ""] } := by decide +kernel
  have ending : (Path.segments ["b", ""]).text = (Path.segments ["b", ""]).stem ++ "/" := by
    decide +kernel
  exact ⟨accepted, (keeps_address_iff () accepted parsed).2 ⟨fun _ => by decide, _, slash, ending⟩⟩

/-- **A query takes the slash**, and the last segment of the path is lost. -/
theorem not_keeps_address_of_query : checkApiUrl "http://backend.test/api?x=1" = .ok () ∧
    ¬ KeepsAddress "http://backend.test/api?x=1" () := by
  refine ⟨by decide +kernel, ?_⟩
  rintro ⟨u, s, parsed, connected, all⟩
  have own : Url.parse "http://backend.test/api?x=1" = .ok
      { scheme := "http", host := some (.name "backend.test"), path := .segments ["api"],
        query := some "x=1" } := by decide +kernel
  have slash : Url.parse (addSlash "http://backend.test/api?x=1") = .ok
      { scheme := "http", host := some (.name "backend.test"), path := .segments ["api"],
        query := some "x=1/" } := by decide +kernel
  obtain rfl := Except.ok.inj (own.symm.trans parsed)
  obtain base := Except.ok.inj (slash.symm.trans (parse_of_connect connected))
  obtain ⟨url, found, below⟩ := all .stats
  have path : s.base.path = .segments ([] ++ ["api"]) := by rw [← base]; rfl
  have lost := text_of_isBelow path found below
  exact absurd lost (by decide +kernel)

end Remote

end Exposition

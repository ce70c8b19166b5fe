import Tronkit.Proofs.Client.Connection
import Tronkit.Proofs.Client.Paths
import Tronkit.Proofs.Url.Extension

/-!
# Requests under an endpoint

The path of a request is put behind the text of the endpoint. So the request goes under the
endpoint exactly if the endpoint ends in its path. An endpoint may have a query or a fragment too,
and then it takes the path of the request for a part of that.
-/

namespace Tronkit

open Node

namespace UrlPath

instance (segment : List Char) : Decidable (Trail.IsPlain segment) :=
  have := List.decidableBAll (fun c => isHidden c = false ∧ Percent.inPath c = false) segment
  inferInstanceAs (Decidable (_ ∧ _))

instance (special : Bool) (segment : List Char) : Decidable (IsSegment special segment) :=
  have := List.decidableBAll (fun c => isSlash special c = false) segment
  decidable_of_iff (Trail.IsPlain segment ∧ ∀ c ∈ segment, isSlash special c = false)
    ⟨fun h => ⟨h.1, h.2⟩, fun h => ⟨h.plain, h.unparted⟩⟩

instance (special : Bool) (cs : List Char) : Decidable (IsWritten special cs) :=
  inferInstanceAs (Decidable (∀ segment ∈ Split.all '/' cs, IsSegment special segment))

end UrlPath

namespace Url.Relative

def ofPath (path : String) : Relative :=
  let (path, query) := Split.first '?' path.toList
  ⟨path, query.map String.ofList⟩

instance (r : Relative) : Decidable r.IsWritten :=
  have := fun s : String => List.decidableBAll (fun c => Percent.inQuery true c = false) s.toList
  decidable_of_iff (UrlPath.IsWritten true r.path ∧
      (∀ first ∈ (Split.all '/' r.path).head?, first ≠ [] ∧ UrlPath.isDrive first = false) ∧
      ∀ s ∈ r.query, ∀ c ∈ s.toList, Percent.inQuery true c = false)
    ⟨fun h => ⟨h.1, h.2.1, h.2.2⟩, fun h => ⟨h.path, h.first, h.query⟩⟩

theorem text_ofPath (path : String) : (ofPath path).text = path.toList := by
  unfold ofPath
  cases hfirst : Split.first '?' path.toList with
  | mk front back =>
    cases back with
    | none => simp [text, tail, (Split.first_eq_none_iff.1 hfirst).1]
    | some back => simp [text, tail, (Split.first_eq_some_iff.1 hfirst).1]

theorem isWritten_of_mem_paths : ∀ path ∈ Wallet.paths, (ofPath path).IsWritten := by
  decide +kernel

theorem isWritten_eventsPath {hash : String} (h : UrlPath.IsWritten true hash.toList) :
    (ofPath (Wallet.eventsPath hash)).IsWritten := by
  have htext : (Wallet.eventsPath hash).toList =
      "v1/transactions".toList ++ '/' :: (hash.toList ++ '/' :: "events".toList) := by
    have hfront : "v1/transactions/".toList = "v1/transactions".toList ++ ['/'] := by decide
    have hback : "/events".toList = '/' :: "events".toList := by decide
    have hparts : (Wallet.eventsPath hash).toList =
        "v1/transactions/".toList ++ hash.toList ++ "/events".toList :=
      String.toList_append.trans (congrArg (· ++ "/events".toList) String.toList_append)
    rw [hparts, hfront, hback, List.append_assoc, List.append_assoc, List.singleton_append]
  have hwritten : UrlPath.IsWritten true (Wallet.eventsPath hash).toList := by
    rw [htext]
    exact UrlPath.isWritten_append.2 ⟨by decide, UrlPath.isWritten_append.2 ⟨h, by decide⟩⟩
  have hmark : '?' ∉ (Wallet.eventsPath hash).toList := fun hmem => by
    cases hwritten.inPath '?' hmem
  have hpath : ofPath (Wallet.eventsPath hash) = ⟨(Wallet.eventsPath hash).toList, none⟩ := by
    rw [ofPath, Split.first_of_notMem hmark]
    rfl
  rw [hpath]
  refine ⟨hwritten, ?_, nofun⟩
  rw [htext, head?_all_append]
  decide

end Url.Relative

namespace Gateway

open Url (Relative stem)

theorem uri_eq {path : String} (g : Gateway) (service : Service)
    (h : (Relative.ofPath path).IsWritten) :
    g.uri service path = String.ofList ((g.endpoints.url service).extend (.ofPath path)) := by
  obtain ⟨c, rest, hrest, hne⟩ := h.exists_cons
  have hpath : path.toList = c :: (rest ++ Url.tail '?' (Relative.ofPath path).query) := by
    rw [← Relative.text_ofPath, Relative.text, hrest, List.cons_append]
  have hslashes : withoutSlashes path.toList = path.toList := by
    rw [withoutSlashes, hpath, List.dropWhile_cons_of_neg (by simpa using hne)]
  have hnonempty : path.toList ≠ [] := by
    rw [hpath]
    exact List.cons_ne_nil c _
  rw [uri, join, if_neg hnonempty, hslashes, Url.extend, Relative.text_ofPath]
  rfl

end Gateway

/-- The hash in the path of a request, if there is one, is written as a path is. -/
def Request.HasWrittenHash (request : Request) : Prop :=
  ∀ hash, request = .get .events (Wallet.eventsPath hash) → UrlPath.IsWritten true hash.toList

theorem isWritten_of_isUsual {request : Request} (h : IsUsual request) (hpath : request.path ≠ "")
    (hhash : request.HasWrittenHash) : (Url.Relative.ofPath request.path).IsWritten := by
  cases h with
  | call method body => exact absurd rfl hpath
  | wallet h => exact Url.Relative.isWritten_of_mem_paths _ h
  | events hash => exact Url.Relative.isWritten_eventsPath (hhash hash rfl)

namespace Configuration

variable {conf : Configuration} {endpoints : Endpoints} {s : String} {u : Url}

theorem parse_of_readEndpoint (h : readEndpoint s = .ok u) : Url.parse s = .ok u :=
  except_mapError_eq_ok_iff.1 h

theorem exists_parse_of_readEndpoints (h : conf.readEndpoints = .ok endpoints) :
    ∀ service, ∃ s, Url.parse s = .ok (endpoints.url service) := by
  unfold readEndpoints at h
  split at h
  · obtain ⟨rpc, hrpc, h⟩ := bind_eq_ok_iff.1 h
    obtain ⟨wallet, hwallet, h⟩ := bind_eq_ok_iff.1 h
    obtain ⟨events, hevents, h⟩ := bind_eq_ok_iff.1 h
    cases h
    intro service
    cases service with
    | rpc => exact ⟨_, parse_of_readEndpoint hrpc⟩
    | wallet => exact ⟨_, parse_of_readEndpoint hwallet⟩
    | events => exact ⟨_, parse_of_readEndpoint hevents⟩
  · cases h

end Configuration

namespace Client

variable {conf : Configuration}

/-- What a client asks for goes under the endpoint of its service exactly if the endpoint has
neither a query nor a fragment. In an endpoint that has one the path of the request gets into that,
and the path of the endpoint is all that is asked for. An endpoint that is no file stands exactly if
the name of its host is its own form in ASCII. -/
theorem requests_under_endpoint_iff (h : conf.validate = .ok ()) :
    ∃ endpoints, conf.readEndpoints = .ok endpoints ∧
      (∀ service, (endpoints.url service).scheme ≠ "file" →
        ((endpoints.url service).Stands ↔ (endpoints.url service).HasAsciiName)) ∧
      ∀ {α : Type} (c : Client) (m : Method α) (net : Transport),
        ∀ request ∈ ((m.perform c).run net []).2, request.path ≠ "" → request.HasWrittenHash →
          let u := endpoints.url request.service
          let uri := Gateway.uri ⟨endpoints, conf.apiKey⟩ request.service request.path
          u.Stands →
            ((∃ v, Url.parse uri = .ok v ∧ u.IsUnder (.ofPath request.path) v) ↔
              u.query = none ∧ u.fragment = none) ∧
            (¬(u.query = none ∧ u.fragment = none) → ∃ query fragment,
              Url.parse uri = .ok { u with query := query, fragment := fragment }) := by
  obtain ⟨endpoints, hread⟩ := Configuration.exists_endpoints_of_validate h
  refine ⟨endpoints, hread, fun service hfile => ?_, fun c m net request hrequest hpath hhash => ?_⟩
  · obtain ⟨s, hs⟩ := Configuration.exists_parse_of_readEndpoints hread service
    exact Url.stands_iff_of_parse hs hfile
  have hwritten := isWritten_of_isUsual (isUsual_of_mem_run c m net request hrequest) hpath hhash
  intro u uri hstands
  have huri : uri = String.ofList (u.extend (.ofPath request.path)) :=
    Gateway.uri_eq _ request.service hwritten
  rw [huri]
  exact ⟨Url.exists_isUnder_iff hstands hwritten, Url.parse_extend_of_tail hstands hwritten⟩

/-- The latest block is asked for under the wallet interface of a known network. -/
theorem latest_block_under_endpoint :
    let conf := Configuration.ofNetwork .nile none
    conf.validate = .ok () ∧ ∃ endpoints, conf.readEndpoints = .ok endpoints ∧
      ∃ v, Url.parse (Gateway.uri ⟨endpoints, none⟩ .wallet "wallet/getblockbylatestnum?num=1") =
          .ok v ∧
        endpoints.wallet.IsUnder (.ofPath "wallet/getblockbylatestnum?num=1") v := by
  intro conf
  have hvalid : conf.validate = .ok () := by decide
  obtain ⟨endpoints, hread, -, hunder⟩ := requests_under_endpoint_iff hvalid
  refine ⟨hvalid, endpoints, hread, ?_⟩
  have hwallet : endpoints.wallet =
      ⟨"https", "", "", some (.name "nile.trongrid.io"), none, "/", none, none⟩ := by
    have hmap : conf.readEndpoints.map Endpoints.wallet =
        .ok ⟨"https", "", "", some (.name "nile.trongrid.io"), none, "/", none, none⟩ := by decide
    rw [hread] at hmap
    exact Except.ok.inj hmap
  have hstands : endpoints.wallet.Stands := by
    rw [hwallet]
    decide
  let net : Transport := ⟨fun _ _ => .error (.internal "")⟩
  have hrequest : Request.get .wallet "wallet/getblockbylatestnum?num=1" ∈
      ((Method.latestBlockNumber.perform (standard 0)).run net []).2 := by decide
  refine (hunder (standard 0) .latestBlockNumber net _ hrequest (by decide) nofun hstands).1.2 ?_
  exact ⟨congrArg Url.query hwallet, congrArg Url.fragment hwallet⟩

/-- In the query of an endpoint the path of a request does not count: what is asked for is the path
of the endpoint. -/
theorem path_in_query_of_endpoint :
    let text := "http://127.0.0.1:1/x?y=1"
    let conf : Configuration := ⟨[text, text, text], none, 1, none⟩
    let u : Url := ⟨"http", "", "", some (.ipv4 2130706433), some 1, "/x", some "y=1", none⟩
    let uri := Gateway.uri ⟨⟨u, u, u⟩, none⟩ .wallet "wallet/getenergyprices"
    let v : Url := { u with query := some "y=1/wallet/getenergyprices" }
    conf.validate = .ok () ∧ conf.readEndpoints = .ok ⟨u, u, u⟩ ∧
      (∀ net, Request.get .wallet "wallet/getenergyprices" ∈
        (((Method.energyPrice 0).perform (standard 1)).run net []).2) ∧
      uri = "http://127.0.0.1:1/x?y=1/wallet/getenergyprices" ∧ Url.parse uri = .ok v ∧
      v.path ≠ "/x/wallet/getenergyprices" := by
  intro text conf u uri v
  refine ⟨by decide, by decide, fun net => ?_, by decide, by decide, by decide⟩
  have hsent : ((Wallet.energyPrice 0).run net []).2 =
      [Request.get .wallet "wallet/getenergyprices"] := by
    rw [Wallet.energyPrice, Exchange.run_bind_ofExcept, Wallet.get, run_ask]
    rfl
  exact hsent ▸ List.mem_singleton_self _

end Client
end Tronkit

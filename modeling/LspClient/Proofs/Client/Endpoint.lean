import LspClient.Client.Config
import LspClient.Proofs.Url.Authority

/-!
# The endpoint of a configuration

The endpoint is read from one text: the host, the port and the path of a configuration, one behind
the other. The path begins with a slash, so it has no say in where the server is
(`endpoint_path_irrelevant`). The host is not checked before it stands in that text, and it is read
as a host only as far as nothing in it ends what is read as one. Where it is a host as a whole, or
nothing in it does, the endpoint is on the server that the configuration names (`endpoint_names`).
-/

namespace LspClient.Config

open Url

/-! ### The text of the endpoint -/

/-- What stands before the path. -/
def place (c : Config) : List Char :=
  '/' :: '/' :: (c.host.toList ++ ':' :: Decimal.digits c.port.toNat)

theorem socketAddress_eq (c : Config) :
    c.socketAddress = .ofList (c.host.toList ++ ':' :: Decimal.digits c.port.toNat) := by
  refine String.toList_inj.1 ?_
  show (c.host ++ ":" ++ Decimal.text c.port.toNat).toList = _
  simp [Decimal.text]

theorem endpointText_eq (c : Config) :
    c.endpointText = .ofList (c.place ++ c.rootedPath.toList) := by
  refine String.toList_inj.1 ?_
  show ("//" ++ c.socketAddress ++ c.rootedPath).toList = _
  simp [socketAddress_eq, place]

/-- A path has a slash in front. -/
theorem exists_rootedPath_eq (c : Config) : ∃ rest, c.rootedPath.toList = '/' :: rest := by
  rw [rootedPath]
  split
  · rename_i hhead
    exact List.head?_eq_some_iff.1 hhead
  · exact ⟨c.path.toList, by simp⟩

/-- The endpoint by the two parts of its text. -/
theorem endpoint_eq (c : Config) : c.endpoint =
    ((Authority.parse (serverText c.place)).map
      (·.url (spilled c.place ++ clean c.rootedPath.toList))).mapError fun fault ↦
        .invalidEndpoint s!"http:{c.endpointText}" fault.message := by
  obtain ⟨rest, hrest⟩ := exists_rootedPath_eq c
  have hcolon : ':' ∈ c.place := by simp [place]
  have hclean : clean ('/' :: rest) = '/' :: clean rest := clean_append_slash [] rest
  rw [endpoint, endpointText_eq, hrest, parse_append_slash hcolon (by decide) (by decide), hclean]

/-! ### Paths -/

/-- Two outcomes lead to the same place: both are on the same server, or both are refused for the
same reason. -/
inductive SamePlace : Except Transport.Error Url → Except Transport.Error Url → Prop
  | served {u v : Url} (h : SameServer u v) : SamePlace (.ok u) (.ok v)
  | refused (text text' reason : String) :
      SamePlace (.error (.invalidEndpoint text reason)) (.error (.invalidEndpoint text' reason))

/-- **The path has no say in where requests go.** -/
theorem endpoint_path_irrelevant (c : Config) (p q : String) :
    SamePlace ({ c with path := p } : Config).endpoint
      ({ c with path := q } : Config).endpoint := by
  have hplace : ({ c with path := p } : Config).place = ({ c with path := q } : Config).place := rfl
  rw [endpoint_eq, endpoint_eq, hplace]
  cases Authority.parse (serverText ({ c with path := q } : Config).place) with
  | ok a => exact .served (a.sameServer _ _)
  | error fault => exact .refused _ _ fault.message

/-! ### Servers -/

/-- A URL is on the server that a configuration names. -/
structure Names (c : Config) (url : Url) : Prop where
  /-- No part of the configuration is the name or the password of a user. -/
  user : url.user = [] ∧ url.password = none
  /-- The host is read from the whole host of the configuration. -/
  host : Host.parse c.host.toList = .ok url.host
  /-- The port is the one of the configuration, though a URL does not tell the standard one. -/
  port : url.port.getD standardPort = c.port.toNat
  /-- The socket address has the same host and the same port. -/
  socketAddress : ∃ host : List Char, Host.parse host = .ok url.host ∧
    c.socketAddress = .ofList (host ++ ':' :: Decimal.digits (url.port.getD standardPort))
  /-- What is asked of the server is the path alone. -/
  asked : url.path = pathOf ((clean c.rootedPath.toList).takeWhile fun c ↦ !endsPath c) ∧
    url.query = queryOf ((clean c.rootedPath.toList).dropWhile fun c ↦ !endsPath c) ∧
    url.fragment = fragmentOf ((clean c.rootedPath.toList).dropWhile fun c ↦ !endsPath c)

/-- No character of a text ends the part of a URL that says where the server is, or the user in it,
and none is dropped. -/
def IsUnbroken (s : String) : Prop :=
  ∀ c ∈ s.toList, isBreak c = false

instance (s : String) : Decidable (IsUnbroken s) :=
  List.decidableBAll (fun c ↦ isBreak c = false) s.toList

theorem mapError_map_eq_ok_iff {ε ε' α β : Type} {x : Except ε α} {f : α → β} {g : ε → ε'} {b : β} :
    (x.map f).mapError g = .ok b ↔ ∃ a, x = .ok a ∧ b = f a := by
  cases x with
  | ok a => simp [Except.map, Except.mapError, eq_comm]
  | error e => simp [Except.map, Except.mapError]

/-- Where nothing breaks the host, the endpoint is on the server of the configuration, which needs
the host to be one. -/
theorem endpoint_eq_ok_iff {c : Config} {url : Url} (h : IsUnbroken c.host) :
    c.endpoint = .ok url ↔ ∃ host, Host.parse c.host.toList = .ok host ∧
      url = (Authority.mk [] none host
        (if c.port.toNat = standardPort then none else some c.port.toNat)).url
          (clean c.rootedPath.toList) := by
  have hport : c.port.toNat ≤ greatestPort := Nat.le_of_lt_succ c.port.toNat_lt
  have hplain : ∀ x ∈ c.host.toList ++ ':' :: Decimal.digits c.port.toNat, isBreak x = false := by
    intro x hx
    rcases List.mem_append.1 hx with hx | hx
    · exact h x hx
    rcases List.mem_cons.1 hx with rfl | hx
    · rfl
    · exact isBreak_of_isDigit (Decimal.isDigit_of_mem_digits hx)
  have hat : '@' ∉ c.host.toList := fun hmem ↦ absurd (h _ hmem) (by decide)
  obtain ⟨hserver, hspilled⟩ := serverText_of_forall hplain
  rw [endpoint_eq, place, hserver, hspilled, List.nil_append, mapError_map_eq_ok_iff]
  simp only [Authority.parse_append_port_eq_ok_iff hat hport]
  constructor
  · rintro ⟨_, ⟨host, hhost, rfl⟩, rfl⟩
    exact ⟨host, hhost, rfl⟩
  · rintro ⟨host, hhost, rfl⟩
    exact ⟨_, ⟨host, hhost, rfl⟩, rfl⟩

/-- A port is told, be it left out as the standard one or not. -/
theorem getD_port (port : Nat) :
    (if port = standardPort then none else some port).getD standardPort = port := by
  split
  · rename_i hport
    exact hport.symm
  · rfl

/-- **Where the endpoint is.** If the host of a configuration is one as a whole, then there is an
endpoint, and it is on the server that the configuration names. An endpoint is on that server
exactly if nothing breaks the host. -/
theorem endpoint_names (c : Config) :
    (∀ host, Host.parse c.host.toList = .ok host → ∃ url, c.endpoint = .ok url ∧ c.Names url) ∧
      ∀ url, c.endpoint = .ok url → (c.Names url ↔ IsUnbroken c.host) := by
  have hnames : ∀ url, IsUnbroken c.host → c.endpoint = .ok url → c.Names url := by
    intro url hunbroken hurl
    obtain ⟨host, hhost, rfl⟩ := (endpoint_eq_ok_iff hunbroken).1 hurl
    have hport := getD_port c.port.toNat
    exact {
      user := ⟨rfl, rfl⟩
      host := hhost
      port := hport
      socketAddress := ⟨c.host.toList, hhost, by rw [socketAddress_eq, Authority.url, hport]⟩
      asked := by simp only [Authority.url, and_self] }
  refine ⟨fun host hhost ↦ ?_, fun url hurl ↦ ⟨fun h ↦ isBreak_of_parse h.host, fun h ↦
    hnames url h hurl⟩⟩
  have hunbroken : IsUnbroken c.host := isBreak_of_parse hhost
  have hurl := (endpoint_eq_ok_iff hunbroken).2 ⟨host, hhost, rfl⟩
  exact ⟨_, hurl, hnames _ hunbroken hurl⟩

/-- The address `::1`. -/
def loopback : Ipv6 :=
  ⟨#v[0, 0, 0, 0, 0, 0, 0, 1]⟩

theorem endpoint_names_loopback :
    (∃ url, ({ host := "[::1]" } : Config).endpoint = .ok url ∧
      ({ host := "[::1]" } : Config).Names url) ∧
    ({ host := "[::1]" } : Config).endpoint = .ok
      { host := .ipv6 loopback, port := some 9090, path := [[]] } ∧
    ({ host := "[::1]" } : Config).Names
      { host := .ipv6 loopback, port := some 9090, path := [[]] } := by
  have hurl : ({ host := "[::1]" } : Config).endpoint = .ok
      { host := .ipv6 loopback, port := some 9090, path := [[]] } := by rfl
  exact ⟨(endpoint_names _).1 (.ipv6 loopback) (by rfl), hurl,
    ((endpoint_names _).2 _ hurl).2 (by decide)⟩

/-- A host with a slash in it is read as a host and a path, and the port as a part of the path. What
stands before an at sign is read as a user. -/
theorem endpoint_of_broken_host :
    ({ host := "user@[::1]/rpc" } : Config).endpoint = .ok
      { user := "user".toList, host := .ipv6 loopback, path := ["rpc:9090".toList, []] } ∧
    ¬({ host := "user@[::1]/rpc" } : Config).Names
      { user := "user".toList, host := .ipv6 loopback, path := ["rpc:9090".toList, []] } :=
  ⟨by rfl, fun h ↦ absurd h.user.1 (by decide)⟩

end LspClient.Config

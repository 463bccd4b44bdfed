import CloudOperator.Proofs.Url
import CloudOperator.Proofs.Vault

/-!
# The path of a secret

A read of the secret of a tenant goes to one path, which ends with the name of the tenant, encoded.
No name leads anywhere else: those that hold a separator, the beginning of a query or a fragment,
the beginning of a code or anything that is dropped from an address are refused
(`Vault.of_isTenant`), as are the two dot segments.  So the path tells the tenant
(`Vault.reads_own_secret`).
-/

namespace CloudOperator

open Program

/-! ## Slashes at the end -/

theorem dropTrailing_isPrefix (p : Char → Bool) (cs : List Char) :
  dropTrailing p cs <+: cs
  := by
  rw [dropTrailing, ← List.reverse_suffix, List.reverse_reverse]
  apply List.dropWhile_suffix

/-- What stands before a character that is not dropped is not dropped. -/
theorem dropTrailing_append {p : Char → Bool} (cs : List Char) {c : Char} (keeps : p c = false)
    (rest : List Char) :
  dropTrailing p (cs ++ c :: rest) = cs ++ c :: dropTrailing p rest
  := by
  rw [dropTrailing, dropTrailing, List.reverse_append, List.reverse_cons, List.append_assoc,
    List.dropWhile_append]
  split
  · rename_i all
    rw [List.isEmpty_iff.mp all, List.singleton_append,
      List.dropWhile_cons_of_neg (by simp [keeps])]
    simp
  · simp

/-- The slashes at the end of an address are those at the end of its path. -/
theorem trimTrailingSlashes_append {authority : String} (isAuthority : Url.IsAuthority authority)
    (start base : String) :
  trimTrailingSlashes (start ++ authority ++ base) =
    start ++ authority ++ trimTrailingSlashes base
  := by
  have last := List.dropLast_concat_getLast isAuthority.present
  generalize authority.toList.getLast isAuthority.present = c at last
  have keeps : decide (c = '/') = false := by
    apply decide_eq_false
    rintro rfl
    have found : '/' ∈ authority.toList := last ▸ List.mem_append_right _ List.mem_cons_self
    cases (isAuthority.inside _ found).2.1
  apply String.toList_inj.mp
  simp only [trimTrailingSlashes, String.toList_ofList, String.toList_append]
  rw [← last]
  simp only [List.append_assoc, List.singleton_append]
  rw [← List.append_assoc, dropTrailing_append _ keeps, List.append_assoc]

/-! ## Settings -/

/-- The store is reached at an address with the path `base`, and this and the mount of the secrets
are made of plain segments. -/
structure VaultSettings.IsPlain (s : VaultSettings) (base : String) : Prop where
  address : ∃ scheme authority, Url.IsScheme scheme ∧ Url.IsAuthority authority ∧
    s.address = scheme ++ "://" ++ authority ++ base
  rooted : base.toList = [] ∨ base.toList.head? = some '/'
  base : Url.IsPlainPath base.toList
  mount : Url.IsPlainPath s.kvMount.toList

namespace Vault

variable {s : VaultSettings} {base tenant : String}

/-- The path above the secrets of all tenants. -/
def parents (s : VaultSettings) (base : String) : String :=
  trimTrailingSlashes base ++ "/v1/" ++ s.kvMount ++ "/data"

/-- The path above the secrets is a plain path behind a slash. -/
theorem exists_parents (plain : s.IsPlain base) :
  ∃ rest, (parents s base).toList = '/' :: rest ∧ Url.IsPlainPath rest
  := by
  have isPlain : Url.IsPlainPath (parents s base).toList := by
    intro c found
    simp only [parents, trimTrailingSlashes, String.toList_append, String.toList_ofList,
      List.mem_append] at found
    obtain ((found | found) | found) | found := found
    · exact plain.base c ((dropTrailing_isPrefix ..).mem found)
    · exact Url.IsPlainPath.of_all (by decide) c found
    · exact plain.mount c found
    · exact Url.IsPlainPath.of_all (by decide) c found
  obtain ⟨rest, begins⟩ : ∃ rest, (parents s base).toList = '/' :: rest := by
    obtain ⟨slashes, whole⟩ := dropTrailing_isPrefix (· = '/') base.toList
    simp only [parents, trimTrailingSlashes, String.toList_append, String.toList_ofList]
    cases trimmed : dropTrailing (· = '/') base.toList with
    | nil => exact ⟨_, rfl⟩
    | cons c rest =>
      obtain none | head := plain.rooted
      · rw [trimmed, none] at whole
        cases whole
      · rw [trimmed] at whole
        rw [← whole] at head
        cases head
        exact ⟨_, rfl⟩
  rw [begins] at isPlain
  exact ⟨rest, begins, fun c found => isPlain c (List.mem_cons_of_mem _ found)⟩

/-- The address of a secret, put together of its parts. -/
theorem address_eq (plain : s.IsPlain base) :
  ∃ scheme authority rest, Url.IsScheme scheme ∧ Url.IsAuthority authority ∧
    (parents s base).toList = '/' :: rest ∧ Url.IsPlainPath rest ∧
    ∀ tenant, address s (s.kvMount ++ "/data/" ++ tenant) =
      Url.compose scheme authority (rest ++ '/' :: tenant.toList)
  := by
  obtain ⟨scheme, authority, isScheme, isAuthority, same⟩ := plain.address
  obtain ⟨rest, begins, isPlain⟩ := exists_parents plain
  refine ⟨scheme, authority, rest, isScheme, isAuthority, begins, isPlain, fun tenant => ?_⟩
  rw [address, same, trimTrailingSlashes_append isAuthority]
  have path : '/' :: (rest ++ '/' :: tenant.toList) =
      (parents s base).toList ++ '/' :: tenant.toList := by
    rw [begins, List.cons_append]
  apply String.toList_inj.mp
  rw [Url.toList_compose, path]
  simp [parents]

/-- The name of a tenant that has a secret holds nothing that could lead out of it. -/
theorem of_isTenant (accepted : isTenant tenant = true) :
  tenant.toList ≠ [] ∧ tenant.toList ≠ ['.'] ∧ tenant.toList ≠ ['.', '.'] ∧
    ∀ c ∈ tenant.toList, Url.IsInPath c ∧ Url.isSeparator c = false ∧ c ≠ '%'
  := by
  simp only [isTenant, Bool.and_eq_true, decide_eq_true_eq, List.contains_iff_mem, List.mem_cons,
    not_or, List.any_eq_true, not_exists, not_and] at accepted
  obtain ⟨⟨nonempty, single, double, -⟩, clean⟩ := accepted
  refine ⟨?_, ?_, ?_, fun c found => ?_⟩
  · exact fun none => nonempty (String.toList_inj.mp none)
  · exact fun dot => single (String.toList_inj.mp dot)
  · exact fun dots => double (String.toList_inj.mp dots)
  · have ordinary := clean c found
    simp only [isStray, Bool.or_eq_true, not_or, List.contains_iff_mem, List.mem_cons] at ordinary
    obtain ⟨⟨⟨slash, backslash, mark, hash, percent, -⟩, visible⟩, control⟩ := ordinary
    refine ⟨⟨?_, mark, hash⟩, ?_, percent⟩
    · simp [isBlank, isControl, Url.isMargin] at *
      omega
    · simp [Url.isSeparator, slash, backslash]

/-- In some call for the secret of a tenant a request is sent to read it. -/
def SendsRead (s : VaultSettings) (tenant : String) (request : HttpRequest) : Prop :=
  request.method = .get ∧
    ∃ kept now traffic, (secret s kept tenant now).Poses traffic request

/-- What is sent to read the secret of a tenant is the read of this secret. -/
theorem SendsRead.exists_bearer {request : HttpRequest} (h : SendsRead s tenant request) :
  isTenant tenant = true ∧ ∃ bearer, readRequest? s bearer tenant = some request
  := by
  obtain ⟨method, kept, now, traffic, poses⟩ := h
  cases accepted : isTenant tenant with
  | false => cases not_poses_secret accepted poses
  | true =>
    obtain ⟨-, login⟩ | ⟨bearer, _, _, _, -, -, sent⟩ := (poses_secret accepted).mp poses
    · obtain ⟨url, -, -, rfl⟩ := HttpRequest.build?_eq_some.mp login
      cases method
    · exact ⟨rfl, bearer, sent⟩

/-- The address of the secret of a tenant is read back: its path ends with the name of the tenant,
encoded. -/
theorem exists_url (plain : s.IsPlain base) (accepted : isTenant tenant = true) :
  ∃ url, Url.read (address s (s.kvMount ++ "/data/" ++ tenant)) = some url ∧
    url.pathText = parents s base ++ "/" ++
      String.ofList (Percent.encode Url.isPlainInPath tenant.toList) ∧
    url.query = none ∧ url.fragment = none
  := by
  obtain ⟨-, single, double, clean⟩ := of_isTenant accepted
  obtain ⟨scheme, authority, rest, isScheme, isAuthority, begins, isPlain, addressed⟩ :=
    address_eq plain
  have inside : ∀ c ∈ rest ++ '/' :: tenant.toList, Url.IsInPath c := by
    intro c found
    obtain found | _ | ⟨_, found⟩ := List.mem_append.mp found
    · exact isPlain.inside c found
    · exact ⟨rfl, by decide, by decide⟩
    · exact (clean c found).1
  rw [addressed]
  refine ⟨_, Url.read_compose isScheme isAuthority inside, ?_, rfl, rfl⟩
  apply String.toList_inj.mp
  rw [isPlain.pathText (fun c found => (clean c found).2.1)
    (fun percent => (clean _ percent).2.2 rfl) single double rfl]
  simp [begins]

/-- A read goes to the path of the secret. -/
theorem SendsRead.url {request : HttpRequest} (plain : s.IsPlain base)
    (h : SendsRead s tenant request) :
  request.url.pathText = parents s base ++ "/" ++
      String.ofList (Percent.encode Url.isPlainInPath tenant.toList) ∧
    request.url.query = none ∧ request.url.fragment = none
  := by
  obtain ⟨accepted, bearer, sent⟩ := h.exists_bearer
  obtain ⟨url, denoted, path⟩ := exists_url plain accepted
  obtain ⟨url', denoted', -, rfl⟩ := HttpRequest.build?_eq_some.mp sent
  obtain rfl := Option.some.inj (denoted.symm.trans denoted')
  exact path

/-- The secret of a tenant that has one is read once a token is kept. -/
theorem exists_sendsRead (plain : s.IsPlain base) (named : HttpRequest.isHeaderValue s.ns = true)
    (accepted : isTenant tenant = true) :
  ∃ request, SendsRead s tenant request
  := by
  obtain ⟨url, denoted, -⟩ := exists_url plain accepted
  have headed : ∀ header ∈ headers s ++ [("x-vault-token", "")],
      HttpRequest.isHeaderValue header.2 = true := by
    intro header found
    rw [headers] at found
    split at found
    · rw [List.mem_singleton.mp found]
      rfl
    · obtain _ | ⟨_, _ | ⟨_, ⟨⟩⟩⟩ := found
      · exact named
      · rfl
  have reused : (token s (some ⟨"", ⟨1, 0⟩⟩) ⟨0, 0⟩).Takes []
      (some (.ok "", some ⟨"", ⟨1, 0⟩⟩)) := .done _
  have sent : readRequest? s "" tenant = some ⟨.get, url, _, ""⟩ :=
    HttpRequest.build?_eq_some.mpr ⟨url, denoted, headed, rfl⟩
  exact ⟨_, rfl, _, _, [], (poses_secret accepted).mpr (.inr ⟨_, _, [], [], rfl, reused, sent⟩)⟩

/-- A store that is reached at a plain address holds the secret of every tenant at a path of its
own:

* the path of a read is that of the store and one segment more, which denotes the name of the
  tenant, without a query and a fragment;
* reads for different tenants go to different paths;
* a tenant that has a secret is read, and for any other one nothing is sent, not even a login. -/
theorem reads_own_secret (plain : s.IsPlain base) :
  (∀ tenant request, SendsRead s tenant request →
    ∃ segment, request.url.pathText =
        trimTrailingSlashes base ++ "/v1/" ++ s.kvMount ++ "/data/" ++ segment ∧
      segment ≠ "" ∧ '/' ∉ segment.toList ∧ Percent.text? segment = some tenant ∧
      request.url.query = none ∧ request.url.fragment = none) ∧
  (∀ tenant tenant' request request', SendsRead s tenant request →
    SendsRead s tenant' request' → request.url.pathText = request'.url.pathText →
      tenant = tenant') ∧
  (HttpRequest.isHeaderValue s.ns = true → ∀ tenant, isTenant tenant = true →
    ∃ request, SendsRead s tenant request) ∧
  (∀ tenant, isTenant tenant = false → ∀ kept now traffic request,
    ¬ (secret s kept tenant now).Poses traffic request)
  := by
  have segment {tenant : String} {request : HttpRequest} (h : SendsRead s tenant request) :
      Percent.text? (String.ofList (Percent.encode Url.isPlainInPath tenant.toList)) =
        some tenant := by
    obtain ⟨-, -, -, clean⟩ := of_isTenant h.exists_bearer.1
    exact Percent.text?_encode fun percent => (clean _ percent).2.2 rfl
  refine ⟨?_, ?_, fun named tenant => exists_sendsRead plain named, ?_⟩
  · intro tenant request h
    obtain ⟨path, query, fragment⟩ := h.url plain
    obtain ⟨nonempty, -, -, clean⟩ := of_isTenant h.exists_bearer.1
    refine ⟨_, ?_, ?_, ?_, segment h, query, fragment⟩
    · rw [path, parents]
      simp only [String.append_assoc]
      rfl
    · intro empty
      have decoded := segment h
      rw [empty] at decoded
      cases decoded
      exact nonempty rfl
    · rw [String.toList_ofList]
      exact Percent.slash_notMem_encode fun slash => by cases (clean _ slash).2.1
  · intro tenant tenant' request request' h h' same
    rw [(h.url plain).1, (h'.url plain).1, String.append_right_inj] at same
    have decoded := segment h
    rw [same, segment h'] at decoded
    exact (Option.some.inj decoded).symm
  · intro tenant refused kept now traffic request
    apply not_poses_secret refused

namespace Shop

/-- A store that is reached at an address with a path, and that keeps secrets below one. -/
def settings : VaultSettings where
  address := "https://vault.example:8200/base/"
  ns := "shop"
  rolePath := "approle"
  roleId := "operator"
  roleSecret := "role-secret"
  kvMount := "kv/tenants"

theorem isPlain :
  settings.IsPlain "/base/"
  where
  address :=
    ⟨"https", "vault.example:8200", .inr (by decide), .of_all (by decide) (by decide), rfl⟩
  rooted := .inr rfl
  base := .of_all (by decide)
  mount := .of_all (by decide)

end Shop

/-- The secret of one tenant is read, and nothing is sent for a name that leads to it. -/
theorem reads_own_secret_shop :
  (∃ request, SendsRead Shop.settings "Zoë" request ∧
    ∃ segment, request.url.pathText = "/base/v1/kv/tenants/data/" ++ segment ∧
      Percent.text? segment = some "Zoë") ∧
  ∀ kept now traffic request,
    ¬ (secret Shop.settings kept "../Zoë" now).Poses traffic request
  := by
  obtain ⟨path, -, sends, refuses⟩ := reads_own_secret Shop.isPlain
  obtain ⟨request, sent⟩ := sends (by decide) "Zoë" (by decide)
  obtain ⟨segment, same, -, -, denotes, -⟩ := path "Zoë" request sent
  exact ⟨⟨request, sent, segment, same, denotes⟩, refuses "../Zoë" (by decide)⟩

end Vault

end CloudOperator

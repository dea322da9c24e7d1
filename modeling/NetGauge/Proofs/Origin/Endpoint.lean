import NetGauge.Origin.Endpoint
import NetGauge.Proofs.Origin.LongLabel

set_option autoImplicit false

/-! # Endpoints of origins

An endpoint has the host, the credentials and the port of the origin it is derived from, a path of its own and
neither query nor fragment. Its text leads to the same endpoint again, unless a label of its host is too long
(`Endpoint.ofText_derived`). There are such endpoints, since a label may take more characters once it is encoded
(`Endpoint.ofText_longOrigin`). -/

namespace NetGauge

namespace Origin.Url

variable {url : Url}

/-! ## Changes to a place -/

theorem IsSound.withScheme (h : url.IsSound) (scheme : WebScheme) : (url.withScheme scheme).IsSound := by
  refine ⟨⟨h.authority.credentials, h.authority.host, fun port hport => ?_⟩, h.path, h.query, h.fragment⟩
  exact of_decide_eq_true (Option.filter_eq_some_iff.1 hport).2

theorem IsSound.withPath (h : url.IsSound) (path : String) : (url.withPath path).IsSound :=
  ⟨h.authority, Path.sound_of_parse path.toList, h.query, h.fragment⟩

theorem IsSound.withQuery (h : url.IsSound) (query : Option String) : (url.withQuery query).IsSound := by
  refine ⟨h.authority, h.path, ?_, h.fragment⟩
  cases query with
  | none => exact not_escaped_of_mem_query none
  | some query => exact not_escaped_of_mem_query (some query.toList)

theorem IsSound.withFragment (h : url.IsSound) (fragment : Option String) : (url.withFragment fragment).IsSound := by
  refine ⟨h.authority, h.path, h.query, ?_⟩
  cases fragment with
  | none => exact not_escaped_of_mem_fragment none
  | some fragment => exact not_escaped_of_mem_fragment (some fragment.toList)

/-- Between schemes with one default port the authority stays as it is. -/
theorem IsSound.authority_withScheme (h : url.IsSound) {scheme : WebScheme}
    (hport : scheme.defaultPort = url.scheme.defaultPort) : (url.withScheme scheme).authority = url.authority := by
  have hkept : url.authority.port.filter (fun port => port.toNat ≠ scheme.defaultPort) = url.authority.port := by
    cases hp : url.authority.port with
    | none => rfl
    | some p => simp [hport, h.authority.port p hp]
  exact congrArg (fun port => { url.authority with port := port }) hkept

end Origin.Url

namespace Endpoint

open Origin (WebScheme Url)

variable {url e : Url}

/-! ## What an endpoint has -/

/-- The port that is meant, written or not. -/
def effectivePort (url : Url) : Nat := (url.authority.port.map UInt16.toNat).getD url.scheme.defaultPort

/-- What an endpoint has of the origin that it is derived from, and what it has of its own. -/
structure Derived (url e : Url) : Prop where
  plain : url.scheme.name = "http" ∨ url.scheme.name = "ws" → e.scheme.name = "ws"
  secure : url.scheme.name = "https" ∨ url.scheme.name = "wss" → e.scheme.name = "wss"
  host : e.authority.host = url.authority.host
  credentials : e.authority.credentials = url.authority.credentials
  port : effectivePort e = effectivePort url
  path : e.path = ["ws"]
  query : e.query = none
  fragment : e.fragment = none
  /-- Behind the authority there is the path and nothing else. -/
  text : e.text = e.scheme.name ++ "://" ++ e.authority.text ++ "/ws"

theorem socketScheme?_name (scheme : WebScheme) : socketScheme? scheme.name = some ⟨scheme.secure, true⟩ := by
  obtain ⟨secure, socket⟩ := scheme
  cases secure <;> cases socket <;> decide

theorem parse_path : Origin.Path.parse path.toList = ["ws"] := by decide

/-- The socket at a place. -/
def socket (url : Url) : Url :=
  (((url.withScheme ⟨url.scheme.secure, true⟩).withPath path).withQuery none).withFragment none

theorem sound_socket (h : url.IsSound) : (socket url).IsSound :=
  (((h.withScheme _).withPath path).withQuery none).withFragment none

/-- The authority stays as it is: a port that is not the default of one scheme is not that of the other. -/
theorem authority_socket (h : url.IsSound) : (socket url).authority = url.authority :=
  h.authority_withScheme rfl

theorem derived_socket (h : url.IsSound) : Derived url (socket url) := by
  have hplain : ∀ secure socket,
      (WebScheme.mk secure socket).name = "http" ∨ (WebScheme.mk secure socket).name = "ws" →
        (WebScheme.mk secure true).name = "ws" := by decide
  have hsecure : ∀ secure socket,
      (WebScheme.mk secure socket).name = "https" ∨ (WebScheme.mk secure socket).name = "wss" →
        (WebScheme.mk secure true).name = "wss" := by decide
  have hauthority := authority_socket h
  have hport : effectivePort (socket url) = effectivePort url := by
    rw [effectivePort, hauthority]
    rfl
  refine ⟨hplain url.scheme.secure url.scheme.socket, hsecure url.scheme.secure url.scheme.socket, by rw [hauthority],
    by rw [hauthority], hport, parse_path, rfl, rfl, ?_⟩
  have hpath : Origin.Path.text (socket url).path = "/ws" := by
    rw [show (socket url).path = ["ws"] from parse_path]
    decide
  rw [Url.text, hpath]
  simp [socket, Url.withFragment, Url.withQuery]

/-- A socket is its own socket. -/
theorem socket_socket (h : url.IsSound) : socket (socket url) = socket url := by
  have hparts : ∀ url, socket url =
      ⟨⟨url.scheme.secure, true⟩, (socket url).authority, Origin.Path.parse path.toList, none, none⟩ := fun _ => rfl
  rw [hparts (socket url), authority_socket (sound_socket h)]
  rfl

/-! ## Endpoints of origins -/

theorem ofOrigin_web (url : Url) : ofOrigin (.web url) = .ok (socket url) := by
  simp only [ofOrigin, Origin.schemeName, socketScheme?_name, Origin.withScheme?]
  rfl

theorem ofOrigin_other {name : String} (h : WebScheme.ofName? name = none) :
    ofOrigin (.other name) = .error (.scheme name) ∧ name ∉ ["http", "https", "ws", "wss"] := by
  have hname : name ∉ ["http", "https", "ws", "wss"] := by
    have hknown : ∀ name ∈ ["http", "https", "ws", "wss"], (WebScheme.ofName? name).isSome := by decide
    intro hmem
    have hsome := hknown name hmem
    rw [h] at hsome
    cases hsome
  have hscheme : socketScheme? name = none := by
    simp only [List.mem_cons, List.not_mem_nil, or_false, not_or] at hname
    simp [socketScheme?, hname]
  refine ⟨?_, hname⟩
  simp only [ofOrigin, Origin.schemeName, hscheme]

theorem trim_socket (h : url.IsSound) : Text.trim (socket url).text = (socket url).text := by
  have htext : (socket url).text.toList = (WebScheme.mk url.scheme.secure true).name.toList ++
      (':' :: '/' :: '/' :: ((socket url).authority.text.toList ++ ['/', 'w', 's'])) := by
    rw [(derived_socket h).text]
    simp [socket, Url.withFragment, Url.withQuery, Url.withPath, Url.withScheme]
  have hhead : (socket url).text.toList.head? = some 'w' := by
    have hname : ∀ secure, (WebScheme.mk secure true).name.toList.head? = some 'w' := by decide
    rw [htext, List.head?_append, hname]
    rfl
  have hlast : (socket url).text.toList.getLast? = some 's' :=
    List.getLast?_eq_some_iff.2 ⟨(WebScheme.mk url.scheme.secure true).name.toList ++
      ':' :: '/' :: '/' :: ((socket url).authority.text.toList ++ ['/', 'w']), by simp [htext]⟩
  exact Text.trim_eq_self hhead hlast (by decide) (by decide)

/-- **The text of a socket leads to the socket**, if its host can be read. -/
theorem ofText_socket (h : url.IsSound) :
    ofText (socket url).text =
      if (socket url).authority.host.isReadable then .ok (socket url)
      else .error (.invalid (socket url).text .name) := by
  have hread := Origin.parse_url_text (sound_socket h)
  by_cases hreadable : (socket url).authority.host.isReadable = true
  · rw [if_pos hreadable] at hread ⊢
    simp only [ofText, trim_socket h, hread, ofOrigin_web, socket_socket h]
  · rw [if_neg hreadable] at hread ⊢
    simp only [ofText, trim_socket h, hread]

/-- Every origin of the web has an endpoint. -/
theorem exists_endpoint {text : String} (hread : Origin.parse (Text.trim text) = .ok (.web url)) :
    ∃ e, ofText text = .ok e ∧ Derived url e ∧
      ofText e.text = if e.authority.host.isReadable then .ok e else .error (.invalid e.text .name) := by
  have hsound := Origin.sound_of_parse hread
  refine ⟨socket url, ?_, derived_socket hsound, ofText_socket hsound⟩
  simp only [ofText, hread, ofOrigin_web]

/-- **Endpoints are derived exactly, and again from their own text.** Text that is no origin has no endpoint, nor
    has an origin whose scheme is none of the web; in all other cases there is one. Its text leads to itself, unless
    a label of its host is too long to be decoded. -/
theorem ofText_derived (text : String) :
    match Origin.parse (Text.trim text) with
    | .error fault => ofText text = .error (.invalid (Text.trim text) fault)
    | .ok (.other name) => ofText text = .error (.scheme name) ∧ name ∉ ["http", "https", "ws", "wss"]
    | .ok (.web url) => ∃ e, ofText text = .ok e ∧ Derived url e ∧
        ofText e.text = if e.authority.host.isReadable then .ok e else .error (.invalid e.text .name) := by
  cases hread : Origin.parse (Text.trim text) with
  | error fault => simp only [ofText, hread]
  | ok o =>
      cases o with
      | web url => exact exists_endpoint hread
      | other name =>
          simp only [ofText, hread]
          exact ofOrigin_other (Origin.ofName?_of_parse hread)

/-- **An endpoint whose text leads to no endpoint**: its host is read from ideographs and cannot be read again. -/
theorem ofText_longOrigin : ∃ e, ofText Origin.longOrigin = .ok e ∧ ofText e.text ≠ .ok e := by
  have hread := Origin.parse_longOrigin
  rw [← Origin.trim_longOrigin] at hread
  obtain ⟨e, he, hderived, hagain⟩ := exists_endpoint hread
  refine ⟨e, he, ?_⟩
  rw [hagain, hderived.host, Origin.Host.isReadable_longName]
  simp

end Endpoint

end NetGauge

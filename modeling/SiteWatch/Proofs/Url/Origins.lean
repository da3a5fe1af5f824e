/-
# Origins of pages

The address of a page on the web, once it is read, has a host and a path from the root. Scheme, host
and port are its origin, and the text of the origin gives them away: only a host in brackets has colons
in it, so where the port begins is never in doubt.
-/

import SiteWatch.Proofs.Json.Tokens
import SiteWatch.Proofs.Outcome
import SiteWatch.Robots.Fetch

namespace SiteWatch

namespace Url

/-! ## Hosts -/

namespace Host

/-- Whether a colon after the host is where the port begins. -/
def IsClosed (host : Host) : Prop :=
  ':' ∉ host.text.toList ∨ host.text.toList.getLast? = some ']'

theorem isClosed_ipv6 (groups : List Nat) : (ipv6 groups).IsClosed := by
  right
  simp only [text]
  split <;> simp only [String.toList_append, List.getLast?_append] <;> rfl

theorem isClosed_ipv4 (address : Nat) : (ipv4 address).IsClosed := by
  left
  have hdigits : ∀ n : Nat, ':' ∉ (toString n).toList := by
    intro n hcolon
    have hdigit : ':'.isDigit = true := Json.isDigit_of_mem_repr (n := n) (by simpa using hcolon)
    exact absurd hdigit (by decide)
  have hdot : ':' ∉ (toString ".").toList := by decide
  simp only [text, String.toList_append, List.mem_append, not_or]
  exact ⟨⟨⟨⟨⟨⟨hdigits _, hdot⟩, hdigits _⟩, hdot⟩, hdigits _⟩, hdot⟩, hdigits _⟩

theorem isClosed_domain {name ascii : String} (hascii : asciiDomain? name = some ascii) :
    (domain ascii).IsClosed := by
  left
  simp only [asciiDomain?, Option.bind_eq_bind, Option.bind_eq_some_iff] at hascii
  obtain ⟨labels, -, hjoined⟩ := hascii
  split at hjoined
  · cases hjoined
  · rename_i hforbidden
    cases hjoined
    intro hcolon
    rw [text, String.toList_ofList] at hcolon
    exact hforbidden (List.any_eq_true.mpr ⟨':', hcolon, by decide⟩)

theorem exists_of_parseIPv4 {name : List Char} {host : Host} (hparse : parseIPv4 name = .ok host) :
    ∃ address, host = .ipv4 address := by
  simp only [parseIPv4] at hparse
  repeat' split at hparse
  all_goals first | exact ⟨_, (Except.ok.inj hparse).symm⟩ | cases hparse

theorem exists_of_parseIPv6 {text : List Char} {host : Host} (hparse : parseIPv6 text = .ok host) :
    ∃ groups, host = .ipv6 groups := by
  simp only [parseIPv6] at hparse
  split at hparse
  · exact ⟨_, (Except.ok.inj hparse).symm⟩
  · cases hparse

/-- A host that is read is not empty. -/
theorem isClosed_of_parse {text : List Char} {host : Host} (hparse : parse text = .ok host) :
    host.isEmpty = false ∧ host.IsClosed := by
  unfold parse at hparse
  split at hparse
  · split at hparse
    · obtain ⟨groups, rfl⟩ := exists_of_parseIPv6 hparse
      exact ⟨rfl, isClosed_ipv6 groups⟩
    · cases hparse
  · split at hparse
    · cases hparse
    · split at hparse
      · cases hparse
      · rename_i ascii hascii
        split at hparse
        · cases hparse
        · rename_i hempty
          split at hparse
          · obtain ⟨address, rfl⟩ := exists_of_parseIPv4 hparse
            exact ⟨rfl, isClosed_ipv4 address⟩
          · cases hparse
            exact ⟨by simpa [isEmpty] using hempty, isClosed_domain hascii⟩

end Host

/-! ## Reading -/

/-- The address of a page on the web. -/
structure IsPage (url : Url) : Prop where
  web : url.isWeb = true
  host : ∃ host, url.host = some host ∧ host.isEmpty = false ∧ host.IsClosed
  path : ∃ segments, url.path = .absolute segments

theorem isClosed_of_readHost {scheme : String} (hspecial : isSpecialScheme scheme = true)
    {text rest : List Char} {host : Host} {port : Option Nat}
    (hread : readHost scheme text = .ok (host, port, rest)) :
    host.isEmpty = false ∧ host.IsClosed := by
  simp only [readHost, hspecial, if_true] at hread
  obtain ⟨found, hfound, hread⟩ := bind_eq_ok.mp hread
  have hclosed : found.isEmpty = false ∧ found.IsClosed := by
    split at hfound
    · cases hfound
    · exact Host.isClosed_of_parse hfound
  have hsame : host = found := by
    split at hread
    · rw [hclosed.1] at hread
      obtain ⟨⟨port, rest⟩, -, hread⟩ := bind_eq_ok.mp hread
      cases hread
      rfl
    · cases hread
      rfl
  rwa [hsame]

/-- What has an authority behind a special scheme has the parts of a page. -/
theorem of_readAuthority {scheme : String} {text : List Char} {url : Url}
    (hread : readAuthority scheme text = .ok url) :
    url.scheme = scheme ∧ (isSpecialScheme scheme = true →
      (∃ host, url.host = some host ∧ host.isEmpty = false ∧ host.IsClosed) ∧
      ∃ segments, url.path = .absolute segments) := by
  simp only [readAuthority] at hread
  obtain ⟨⟨username, password, rest⟩, -, hread⟩ := bind_eq_ok.mp hread
  obtain ⟨⟨host, port, rest⟩, hhost, hread⟩ := bind_eq_ok.mp hread
  obtain ⟨-, hread⟩ := check_eq_ok.mp hread
  cases hread
  exact ⟨rfl, fun hspecial => ⟨⟨host, rfl, isClosed_of_readHost hspecial hhost⟩, _, rfl⟩⟩

theorem scheme_of_readFile {text : List Char} {url : Url} (hread : readFile none text = .ok url) :
    url.scheme = "file" := by
  have hwithin : ∀ text host, readFile.within text none host = .ok url → url.scheme = "file" := by
    intro text host hwithin
    cases hwithin
    rfl
  simp only [readFile, Option.filter_none] at hread
  split at hread
  · split at hread
    · split at hread
      · cases hread
        rfl
      · obtain ⟨host, -, hread⟩ := bind_eq_ok.mp hread
        cases hread
        rfl
    · exact hwithin _ _ hread
  · exact hwithin _ _ hread

theorem of_readSchemed {scheme : String} {rest : List Char} {url : Url}
    (hread : readSchemed none scheme rest = .ok url) :
    url.scheme = scheme ∧ (isSpecialScheme scheme = true → scheme ≠ "file" →
      (∃ host, url.host = some host ∧ host.isEmpty = false ∧ host.IsClosed) ∧
      ∃ segments, url.path = .absolute segments) := by
  unfold readSchemed at hread
  split at hread
  · rename_i hfile
    exact ⟨(scheme_of_readFile hread).trans hfile.symm, fun _ hother => absurd hfile hother⟩
  · split at hread
    · obtain ⟨hscheme, hparts⟩ := of_readAuthority hread
      exact ⟨hscheme, fun hspecial _ => hparts hspecial⟩
    · rename_i hordinary
      refine ⟨?_, fun hspecial => absurd hspecial hordinary⟩
      split at hread
      · exact (of_readAuthority hread).1
      · cases hread
        rfl
      · cases hread
        rfl

theorem special_of_isWeb {url : Url} (hweb : url.isWeb = true) :
    isSpecialScheme url.scheme = true ∧ url.scheme ≠ "file" := by
  simp only [isWeb, Bool.or_eq_true, beq_iff_eq] at hweb
  rcases hweb with hhttp | hhttps
  · rw [hhttp]
    decide
  · rw [hhttps]
    decide

/-- An address of the web that is read is that of a page. -/
theorem isPage_of_parse {text : String} {url : Url} (hparse : parse text = .ok url)
    (hweb : url.isWeb = true) : url.IsPage := by
  simp only [parse, read] at hparse
  split at hparse
  · rename_i scheme rest hscheme
    obtain ⟨rfl, hparts⟩ := of_readSchemed hparse
    obtain ⟨hspecial, hfile⟩ := special_of_isWeb hweb
    obtain ⟨hhost, hpath⟩ := hparts hspecial hfile
    exact ⟨hweb, hhost, hpath⟩
  · cases hparse
  · rename_i heq
    cases heq

/-! ## Origins -/

/-- Scheme, host and port of a page. -/
@[ext]
structure Origin where
  scheme : String
  host : String
  port : Option Nat
deriving DecidableEq, Repr

/-- The origin of a page. -/
def origin (url : Url) : Origin := ⟨url.scheme, url.hostText?.getD "", url.port⟩

/-- A port behind its colon. -/
def portChars : Option Nat → List Char
  | none => []
  | some port => ':' :: Nat.toDigits 10 port

theorem mem_digits_ne {port : Nat} {c : Char} (hc : c ∈ Nat.toDigits 10 port) : c ≠ ':' ∧ c ≠ ']' := by
  have hdigit := Json.isDigit_of_mem_repr hc
  constructor <;> rintro rfl <;> exact absurd hdigit (by decide)

/-- A host with a port behind it would have a colon, and would not end with a bracket. -/
theorem not_isClosed_append {front digits : List Char} (hdigits : ∀ c ∈ digits, c ≠ ']') :
    ¬ (':' ∉ front ++ ':' :: digits ∨ (front ++ ':' :: digits).getLast? = some ']') := by
  rintro (hcolon | hlast)
  · exact hcolon (by simp)
  · rw [List.getLast?_append, List.getLast?_cons, Option.some_or, Option.some_inj] at hlast
    have hmem : ']' ∈ ':' :: digits := by
      rw [← hlast, ← List.getLastD_eq_getLast?]
      exact List.getLastD_mem_cons
    rcases List.mem_cons.mp hmem with heq | hdigit
    · exact absurd heq (by decide)
    · exact hdigits _ hdigit rfl

/-- Where the port begins is never in doubt. -/
theorem append_colon_inj {front front' digits digits' : List Char} (hdigits : ':' ∉ digits)
    (hdigits' : ':' ∉ digits') (hsame : front ++ ':' :: digits = front' ++ ':' :: digits') :
    front = front' ∧ digits = digits' := by
  rcases List.append_eq_append_iff.mp hsame with ⟨middle, hfront, hrest⟩ | ⟨middle, hfront, hrest⟩
  · cases middle with
    | nil => exact ⟨by simpa using hfront.symm, (List.cons.inj hrest).2⟩
    | cons c middle =>
        rw [List.cons_append] at hrest
        exact absurd ((List.cons.inj hrest).2 ▸ by simp) hdigits
  · cases middle with
    | nil => exact ⟨by simpa using hfront, (List.cons.inj hrest).2.symm⟩
    | cons c middle =>
        rw [List.cons_append] at hrest
        exact absurd ((List.cons.inj hrest).2 ▸ by simp) hdigits'

theorem append_port_inj {front front' : List Char} {port port' : Option Nat}
    (hfront : ':' ∉ front ∨ front.getLast? = some ']')
    (hfront' : ':' ∉ front' ∨ front'.getLast? = some ']')
    (hsame : front ++ portChars port = front' ++ portChars port') : front = front' ∧ port = port' := by
  have hdigits : ∀ n, ∀ c ∈ Nat.toDigits 10 n, c ≠ ':' ∧ c ≠ ']' := fun _ _ => mem_digits_ne
  cases port with
  | none =>
      cases port' with
      | none => exact ⟨by simpa [portChars] using hsame, rfl⟩
      | some n =>
          simp only [portChars, List.append_nil] at hsame
          rw [hsame] at hfront
          exact absurd hfront (not_isClosed_append fun c hc => (hdigits n c hc).2)
  | some m =>
      cases port' with
      | none =>
          simp only [portChars, List.append_nil] at hsame
          rw [← hsame] at hfront'
          exact absurd hfront' (not_isClosed_append fun c hc => (hdigits m c hc).2)
      | some n =>
          obtain ⟨rfl, hnumber⟩ := append_colon_inj (fun hc => (hdigits m _ hc).1 rfl)
            (fun hc => (hdigits n _ hc).1 rfl) hsame
          refine ⟨rfl, congrArg some ?_⟩
          rw [← Nat.ofDigitChars_ten_toDigits (n := m), hnumber, Nat.ofDigitChars_ten_toDigits]

theorem IsPage.toList_originText {url : Url} (hpage : url.IsPage) :
    url.originText.toList = url.scheme.toList ++ ("://".toList ++
        (url.origin.host.toList ++ portChars url.port)) := by
  obtain ⟨host, hhost, hempty, -⟩ := hpage.host
  have hspecial := special_of_isWeb hpage.web
  have hport : ((url.port.map fun port => ":" ++ toString port).getD "").toList =
      portChars url.port := by
    cases url.port <;> simp [portChars]
  simp only [originText, hhost, if_pos hspecial, String.toList_append, hport, origin, hostText?,
    hempty]
  simp

theorem IsPage.isClosed_host {url : Url} (hpage : url.IsPage) :
    ':' ∉ url.origin.host.toList ∨ url.origin.host.toList.getLast? = some ']' := by
  obtain ⟨host, hhost, hempty, hclosed⟩ := hpage.host
  have hsame : url.origin.host = host.text := by simp [origin, hostText?, hhost, hempty]
  rw [hsame]
  exact hclosed

/-- The texts of the origins of pages are the same just if the origins are. -/
theorem IsPage.originText_inj {url other : Url} (hpage : url.IsPage) (hother : other.IsPage) :
    url.originText = other.originText ↔ url.origin = other.origin := by
  rw [← String.toList_inj, hpage.toList_originText, hother.toList_originText]
  constructor
  · intro hsame
    have hscheme : url.scheme = other.scheme := by
      have hweb := hpage.web
      have hweb' := hother.web
      simp only [isWeb, Bool.or_eq_true, beq_iff_eq] at hweb hweb'
      rcases hweb with hurl | hurl <;> rcases hweb' with hother | hother <;>
        rw [hurl, hother] at hsame ⊢
      · cases hsame
      · cases hsame
    rw [hscheme] at hsame
    obtain ⟨hhost, hport⟩ := append_port_inj hpage.isClosed_host hother.isClosed_host
      (List.append_cancel_left (List.append_cancel_left hsame))
    have hhost : url.origin.host = other.origin.host := String.toList_inj.mp hhost
    exact Origin.ext hscheme hhost hport
  · intro hsame
    have hscheme : url.scheme = other.scheme := congrArg Origin.scheme hsame
    have hport : url.port = other.port := congrArg Origin.port hsame
    rw [hscheme, hport, hsame]

end Url

namespace Robots

/-- The address of the robots document of a page's origin. -/
def documentUrl (page : Url) : Url :=
  { page with path := .absolute ["robots.txt"], query := none, fragment := none }

theorem documentUrl?_eq {page : Url} (hpage : page.IsPage) :
    documentUrl? page = some (documentUrl page) := by
  obtain ⟨host, hhost, hempty, -⟩ := hpage.host
  obtain ⟨segments, hpath⟩ := hpage.path
  have hsignificant : Url.significant "/robots.txt".toList = "/robots.txt".toList := by decide
  obtain ⟨hspecial, hfile⟩ := Url.special_of_isWeb hpage.web
  have hjoin : page.join "/robots.txt" = .ok (documentUrl page) := by
    have hopaque : page.isOpaque = false := by rw [Url.isOpaque, hpath]
    have hscheme : Url.scheme? "/robots.txt".toList = none := rfl
    have hread : Url.readPath true [] "robots.txt".toList = (["robots.txt"], none, none) := by
      decide +kernel
    simp only [Url.join, Url.read, hsignificant, hscheme, hopaque, if_neg hfile]
    change Url.readRelative page ('/' :: "robots.txt".toList) = _
    simp only [Url.readRelative, hspecial]
    change Url.readRelative.relative page true [] "robots.txt".toList = _
    rw [Url.readRelative.relative, hread]
    rfl
  simp [documentUrl?, Url.hostText?, hhost, hempty, hjoin, Except.toOption]

end Robots

end SiteWatch

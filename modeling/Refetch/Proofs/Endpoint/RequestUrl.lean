/-
# Which servers requests go to

Settings are accepted only if the base of all URLs begins with `http://` or `https://`, and an
endpoint takes the slashes at the end of the base away, since every path begins with one. If nothing
but slashes follows the scheme, those of the scheme are taken away with them: what is left of
`https://` is `https:`, and the first part of a path comes to stand where the server is named. Every
other base keeps its beginning.

A reader of URLs passes over slashes of both kinds in front of the name of a server, however many
there are, and leaves out tabs and ends of lines. So it is by the base that the server is named
exactly if something else follows the scheme; then the server is the same whatever the path is.
-/

import Mathlib.Data.List.DropRight
import Refetch.ClientConfig.Document
import Refetch.CommandLine
import Refetch.Endpoint
import Refetch.Url

namespace Refetch

/-- Nothing in front of a character that is kept is taken away from the end. -/
theorem rdropWhile_append_cons_of_neg {p : Char → Bool} {x : Char} (kept : p x = false)
    (front rest : List Char) :
    (front ++ x :: rest).rdropWhile p = front ++ x :: rest.rdropWhile p := by
  induction rest using List.reverseRecOn with
  | nil => rw [List.rdropWhile_concat_neg _ _ _ (by simp [kept]), List.rdropWhile_nil]
  | append_singleton rest y ih =>
      have last : front ++ x :: (rest ++ [y]) = (front ++ x :: rest) ++ [y] := by simp
      by_cases dropped : p y = true
      · rw [last, List.rdropWhile_concat_pos _ _ _ dropped, ih,
          List.rdropWhile_concat_pos _ _ _ dropped]
      · rw [last, List.rdropWhile_concat_neg _ _ _ dropped,
          List.rdropWhile_concat_neg _ _ _ dropped, ← last]

namespace Url

/-- The schemes of URLs over HTTP. -/
def schemes : List String := ["http:", "https:"]

theorem afterScheme?_eq_some_iff {url rest : List Char} :
    afterScheme? url = some rest
      ↔ ∃ scheme ∈ schemes, url = scheme.toList ++ '/' :: '/' :: rest := by
  constructor
  · intro found
    unfold afterScheme? at found
    split at found
    · exact ⟨"http:", by simp [schemes], by simpa using found⟩
    · exact ⟨"https:", by simp [schemes], by simpa using found⟩
    · exact absurd found (by simp)
  · rintro ⟨scheme, known, rfl⟩
    rcases List.mem_cons.mp known with rfl | known
    · simp [afterScheme?]
    · rw [List.mem_singleton.mp known]
      simp [afterScheme?]

def isSlash (c : Char) : Bool := c = '/' || c = '\\'

/-- Is the character left out when a URL is read. -/
def isLeftOut (c : Char) : Bool := c = '\t' || c = '\n' || c = '\r'

/-- Is the character passed over in front of the name of a server. -/
def isPassed (c : Char) : Bool := isSlash c || isLeftOut c

/-- The first part of a text in which slashes separate parts, up to a query or a fragment. -/
def firstPart (text : List Char) : List Char :=
  ((clean text).dropWhile isSlash).takeWhile (!endsServer ·)

/-- The server that a URL names, with all that is said about it, such as a port. -/
def server (url : String) : List Char := firstPart ((url.toList.dropWhile (· ≠ ':')).drop 1)

theorem server_append {scheme : String} (known : scheme ∈ schemes) (rest : String) :
    server (scheme ++ rest) = firstPart rest.toList := by
  have after : ((scheme ++ rest).toList.dropWhile (· ≠ ':')).drop 1 = rest.toList := by
    rcases List.mem_cons.mp known with rfl | known
    · simp
    · rw [List.mem_singleton.mp known]
      simp
  rw [server, after]

theorem clean_eq (text : List Char) :
    clean text = (text.filter (!isLeftOut ·)).rdropWhile (·.toNat ≤ 0x20) := by
  have kept : (fun c : Char => decide (c ≠ '\t') && decide (c ≠ '\n') && decide (c ≠ '\r'))
      = fun c => !isLeftOut c := by
    funext c
    simp [isLeftOut, Bool.and_assoc]
  simp only [clean, kept, List.rdropWhile]

theorem clean_append_slash (front more : List Char) :
    clean (front ++ '/' :: more) = front.filter (!isLeftOut ·) ++ '/' :: clean more := by
  have shown : ('/' :: more).filter (!isLeftOut ·) = '/' :: more.filter (!isLeftOut ·) :=
    List.filter_cons_of_pos (by decide)
  rw [clean_eq, clean_eq, List.filter_append, shown, rdropWhile_append_cons_of_neg (by decide)]

section FirstPart

variable {front : List Char}

/-- What is passed over in front of a path is as good as not there. -/
theorem firstPart_append_of_passed (passed : ∀ x ∈ front, isPassed x = true) (more : List Char) :
    firstPart (front ++ '/' :: more) = firstPart ('/' :: more) := by
  have slashes : ∀ x ∈ front.filter (!isLeftOut ·), isSlash x = true := by
    intro x mem
    obtain ⟨mem, seen⟩ := List.mem_filter.mp mem
    have shown : isLeftOut x = false := by simpa using seen
    simpa [isPassed, shown] using passed x mem
  have alone : clean ('/' :: more) = '/' :: clean more := clean_append_slash [] more
  rw [firstPart, firstPart, clean_append_slash, List.dropWhile_append_of_pos slashes, alone]

/-- A path does not reach into a part that begins before it. -/
theorem firstPart_append_of_not_passed (other : ∃ x ∈ front, isPassed x = false)
    (more : List Char) : firstPart (front ++ '/' :: more) = firstPart (front ++ ['/']) := by
  obtain ⟨x, mem, notPassed⟩ := other
  have notAll : ¬ ((front.filter (!isLeftOut ·)).dropWhile isSlash).isEmpty := by
    rw [List.isEmpty_iff, List.dropWhile_eq_nil_iff]
    intro slashes
    have kept : x ∈ front.filter (!isLeftOut ·) := by
      simp_all [isPassed]
    have passed := slashes x kept
    simp [isPassed, passed] at notPassed
  have ends : (!endsServer '/') = false := by decide
  have cut (more : List Char) : firstPart (front ++ '/' :: more)
      = ((front.filter (!isLeftOut ·)).dropWhile isSlash).takeWhile (!endsServer ·) := by
    rw [firstPart, clean_append_slash, List.dropWhile_append, if_neg notAll, List.takeWhile_append,
      List.takeWhile_cons_of_neg (by simp [ends])]
    split
    next whole => rw [List.append_nil, (List.takeWhile_prefix _).eq_of_length whole]
    next => rfl
  rw [cut, cut]

end FirstPart

/-- No slash stands in front of a part that names a server. -/
theorem dropWhile_isSlash_of_namesServer {text : List Char}
    (named : namesServer (text.takeWhile (!endsServer ·)) = true) :
    text.dropWhile isSlash = text := by
  cases text with
  | nil => rfl
  | cons x text =>
      refine List.dropWhile_cons_of_neg ?_
      intro slash
      have ends : endsServer x = true := by
        rw [endsServer, ← isSlash, slash, Bool.true_or, Bool.true_or]
      simp [ends, namesServer] at named

/-- A URL that asks a server for something asks the server that it names. -/
theorem server_of_target? {url asked : String} (read : target? url = some asked) :
    ∃ rest, afterScheme? url.toList = some rest
      ∧ server url = (clean rest).takeWhile (!endsServer ·) := by
  unfold target? at read
  cases found : afterScheme? url.toList with
  | none => simp [found] at read
  | some rest =>
      have named : namesServer ((clean rest).takeWhile (!endsServer ·)) = true := by
        by_contra unnamed
        simp [found, unnamed] at read
      obtain ⟨scheme, known, same⟩ := afterScheme?_eq_some_iff.mp found
      have written : url = scheme ++ String.ofList ('/' :: '/' :: rest) :=
        String.toList_injective (by simpa using same)
      have cleaned : clean ('/' :: '/' :: rest) = '/' :: '/' :: clean rest := by
        have := clean_append_slash ['/'] rest
        simpa [isLeftOut] using this
      refine ⟨rest, rfl, ?_⟩
      rw [written, server_append known, String.toList_ofList, firstPart, cleaned,
        List.dropWhile_cons_of_pos (by decide), List.dropWhile_cons_of_pos (by decide),
        dropWhile_isSlash_of_namesServer named]

end Url

namespace Endpoint

theorem toList_trimSlashes (s : String) :
    (trimSlashes s).toList = s.toList.rdropWhile (· == '/') := by
  rw [trimSlashes, String.toList_ofList, List.rdropWhile]

/-- Nothing but slashes is taken away. -/
theorem exists_trimSlashes_append (s : String) :
    ∃ n, s.toList = (trimSlashes s).toList ++ List.replicate n '/' := by
  have slashes : ∀ x ∈ s.toList.rtakeWhile (· == '/'), x = '/' := by
    intro x mem
    simpa using List.mem_rtakeWhile_imp mem
  refine ⟨(s.toList.rtakeWhile (· == '/')).length, ?_⟩
  rw [toList_trimSlashes, ← List.eq_replicate_of_mem slashes, List.rdropWhile_append_rtakeWhile]

theorem getLast?_trimSlashes (s : String) : (trimSlashes s).toList.getLast? ≠ some '/' := by
  rw [toList_trimSlashes]
  intro slash
  obtain ⟨front, same⟩ := List.getLast?_eq_some_iff.mp slash
  have filled : s.toList.rdropWhile (· == '/') ≠ [] := by simp [same]
  refine List.rdropWhile_last_not _ _ filled ?_
  simp [same]

/-- What is no slash is not taken away. -/
theorem mem_trimSlashes {s : String} {x : Char} (other : x ≠ '/') :
    x ∈ (trimSlashes s).toList ↔ x ∈ s.toList := by
  obtain ⟨n, same⟩ := exists_trimSlashes_append s
  rw [same, List.mem_append, List.mem_replicate]
  simp [other]

/-- A scheme ends with a colon, so it is kept. -/
theorem trimSlashes_scheme_append {scheme : String} (known : scheme ∈ Url.schemes)
    (rest : String) : trimSlashes (scheme ++ rest) = scheme ++ trimSlashes rest := by
  have colon : ∀ scheme ∈ Url.schemes, ∃ name, scheme.toList = name ++ [':'] := by
    simp only [Url.schemes, List.forall_mem_cons]
    exact ⟨⟨"http".toList, by decide⟩, ⟨"https".toList, by decide⟩, by simp⟩
  obtain ⟨name, ended⟩ := colon scheme known
  apply String.toList_injective
  rw [toList_trimSlashes, String.toList_append, String.toList_append, toList_trimSlashes, ended,
    List.append_assoc, List.append_assoc, List.singleton_append, List.singleton_append,
    rdropWhile_append_cons_of_neg (by decide)]

end Endpoint

namespace ClientConfig

theorem isHttp_iff {url : String} :
    isHttp url = true ↔ ∃ rest, Url.afterScheme? url.toList = some rest := by
  simp only [Url.afterScheme?_eq_some_iff, isHttp, Bool.or_eq_true, List.isPrefixOf_iff_prefix,
    Url.schemes]
  constructor
  · rintro (⟨rest, same⟩ | ⟨rest, same⟩)
    · exact ⟨rest, "http:", by simp, by rw [← same]; rfl⟩
    · exact ⟨rest, "https:", by simp, by rw [← same]; rfl⟩
  · rintro ⟨rest, scheme, known, same⟩
    rcases List.mem_cons.mp known with rfl | known
    · exact .inl ⟨rest, same.symm⟩
    · rw [List.mem_singleton.mp known] at same
      exact .inr ⟨rest, same.symm⟩

theorem isHttp_of_fault {c : ClientConfig} (sound : c.fault = none) :
    isHttp c.apiBaseUrl = true := by
  unfold fault at sound
  grind

theorem fault_of_ofText {text : String} {c : ClientConfig} (accepted : ofText text = .ok c) :
    c.fault = none := by
  unfold ofText at accepted
  cases parsed : Toml.parse? text with
  | none => simp [parsed, bind, Except.bind, throw, throwThe, MonadExceptOf.throw] at accepted
  | some members =>
      cases made : ofMembers members with
      | error cause =>
          simp [parsed, made, bind, Except.bind, throw, throwThe, MonadExceptOf.throw] at accepted
      | ok config =>
          simp only [parsed, made, validate, bind, Except.bind, pure, Except.pure] at accepted
          cases faulty : config.fault with
          | some fault => simp [faulty] at accepted
          | none =>
              simp only [faulty, Except.ok.injEq] at accepted
              rw [← accepted, faulty]

/-- Does the base hold, after its scheme, something that is not passed over. -/
def Beyond (c : ClientConfig) (passed : Char → Bool) : Prop :=
  ∃ rest, Url.afterScheme? c.apiBaseUrl.toList = some rest ∧ ∃ x ∈ rest, passed x = false

end ClientConfig

namespace Endpoint

variable {c : ClientConfig} {e : Endpoint}

/-- An accepted base is a scheme and what follows it, of which the endpoint keeps all but the
slashes at the end. -/
theorem exists_scheme {text : String} (accepted : ClientConfig.ofText text = .ok c)
    (built : ofConfig? c = some e) :
    ∃ scheme ∈ Url.schemes, ∃ rest : String, c.apiBaseUrl = scheme ++ ("//" ++ rest)
      ∧ Url.afterScheme? c.apiBaseUrl.toList = some rest.toList
      ∧ e.baseUrl = scheme ++ trimSlashes ("//" ++ rest) := by
  have base : e.baseUrl = trimSlashes c.apiBaseUrl := by
    unfold ofConfig? at built
    split at built
    · exact (Option.some.inj built) ▸ rfl
    · exact absurd built (by simp)
  have http := ClientConfig.isHttp_of_fault (ClientConfig.fault_of_ofText accepted)
  obtain ⟨rest, found⟩ := ClientConfig.isHttp_iff.mp http
  obtain ⟨scheme, known, same⟩ := Url.afterScheme?_eq_some_iff.mp found
  have written : c.apiBaseUrl = scheme ++ ("//" ++ String.ofList rest) :=
    String.toList_injective (by simpa using same)
  refine ⟨scheme, known, String.ofList rest, written, ?_, ?_⟩
  · rw [found, String.toList_ofList]
  · rw [base, written, trimSlashes_scheme_append known]

/-- The slashes of the scheme are kept exactly if something stands after them that is no slash. -/
theorem isHttp_iff_of_scheme {scheme : String} (known : scheme ∈ Url.schemes) (rest : String) :
    ClientConfig.isHttp (scheme ++ trimSlashes ("//" ++ rest)) = true
      ↔ ∃ x ∈ rest.toList, (x == '/') = false := by
  rw [ClientConfig.isHttp_iff]
  simp only [Url.afterScheme?_eq_some_iff]
  constructor
  · rintro ⟨after, other, -, same⟩
    by_contra none
    have slashes : ∀ x ∈ ("//" ++ rest).toList, (x == '/') = true := by simpa using none
    have empty : (trimSlashes ("//" ++ rest)).toList = [] := by
      rw [toList_trimSlashes, List.rdropWhile_eq_nil_iff]
      exact slashes
    have slash : '/' ∈ scheme.toList := by
      rw [String.toList_append, empty, List.append_nil] at same
      simp [same]
    have plain : ∀ scheme ∈ Url.schemes, '/' ∉ scheme.toList := by decide
    exact plain scheme known slash
  · rintro ⟨x, mem, other⟩
    obtain ⟨front, last, split⟩ := List.append_of_mem mem
    refine ⟨front ++ x :: last.rdropWhile (· == '/'), scheme, known, ?_⟩
    have shape : ("//" ++ rest).toList = ('/' :: '/' :: front) ++ x :: last := by simp [split]
    rw [String.toList_append, toList_trimSlashes, shape,
      rdropWhile_append_cons_of_neg (p := (· == '/')) other]
    simp

end Endpoint

theorem Text.dropBlankEnd_trim (s : String) : dropBlankEnd (trim s).toList = (trim s).toList := by
  rw [trim, String.toList_ofList]
  exact List.rdropWhile_idempotent _ _

/-- A text that begins with a slash has no blanks around it if it ends with none. -/
theorem Text.trim_eq_self_of_slash {s : String} {more : List Char} (begins : s.toList = '/' :: more)
    (ended : dropBlankEnd s.toList = s.toList) : trim s = s := by
  have kept : s.toList.dropWhile isBlank = s.toList := by
    rw [begins, List.dropWhile_cons_of_neg (by decide)]
  rw [trim, kept, ended, String.ofList_toList]

/-- The path of a request begins with a slash and has no blanks around it. -/
theorem apiPath?_eq_some {word path : String} (read : apiPath? word = some path) :
    (∃ more, path.toList = '/' :: more) ∧ Text.trim path = path := by
  have ended := Text.dropBlankEnd_trim word
  unfold apiPath? at read
  dsimp only at read
  split at read
  next => exact absurd read (by simp)
  next more begins =>
    obtain rfl := Option.some.inj read
    exact ⟨⟨more, begins⟩, Text.trim_eq_self_of_slash begins ended⟩
  next =>
    obtain rfl := Option.some.inj read
    have begins : ("/" ++ Text.trim word).toList = '/' :: (Text.trim word).toList := by simp
    have kept : Text.dropBlankEnd ('/' :: (Text.trim word).toList)
        = '/' :: Text.dropBlankEnd (Text.trim word).toList :=
      rdropWhile_append_cons_of_neg (p := Text.isBlank) (by decide) [] _
    refine ⟨⟨_, begins⟩, Text.trim_eq_self_of_slash begins ?_⟩
    rw [begins, kept, ended]

/-- The base of an accepted configuration still begins with `http://` or `https://` exactly if it
holds more than slashes after its scheme. In all cases no slash is left at its end, and a URL is the
base and then the path, which supplies the one slash between them. Who is asked depends on the base
alone if something names a server in it, and on the path otherwise. -/
theorem Endpoint.request_url {text word path : String} {c : ClientConfig} {e : Endpoint}
    (accepted : ClientConfig.ofText text = .ok c) (built : Endpoint.ofConfig? c = some e)
    (read : apiPath? word = some path) :
    (ClientConfig.isHttp e.baseUrl = true ↔ c.Beyond (· == '/'))
      ∧ e.baseUrl.toList.getLast? ≠ some '/'
      ∧ (∃ n, c.apiBaseUrl.toList = e.baseUrl.toList ++ List.replicate n '/')
      ∧ e.urlFor path = e.baseUrl ++ path
      ∧ path.toList.head? = some '/'
      ∧ Text.trim path = path
      ∧ (c.Beyond Url.isPassed → Url.server (e.urlFor path) = Url.server (e.urlFor "/"))
      ∧ (¬ c.Beyond Url.isPassed → Url.server (e.urlFor path) = Url.firstPart path.toList) := by
  obtain ⟨⟨more, begins⟩, trimmed⟩ := apiPath?_eq_some read
  obtain ⟨scheme, known, rest, written, found, base⟩ := exists_scheme accepted built
  have beyond (passed : Char → Bool) :
      c.Beyond passed ↔ ∃ x ∈ rest.toList, passed x = false := by
    simp [ClientConfig.Beyond, found]
  have whole : trimSlashes c.apiBaseUrl = e.baseUrl := by
    rw [written, trimSlashes_scheme_append known, base]
  let left := (trimSlashes ("//" ++ rest)).toList
  have asked (path : String) :
      Url.server (e.urlFor path) = Url.firstPart (left ++ path.toList) := by
    rw [urlFor, base, String.append_assoc, Url.server_append known, String.toList_append]
  have kept {x : Char} (seen : Url.isPassed x = false) : x ∈ left ↔ x ∈ rest.toList := by
    have other : x ≠ '/' := by
      rintro rfl
      exact absurd seen (by decide)
    rw [mem_trimSlashes other]
    simp [other]
  refine ⟨?_, ?_, ?_, rfl, ?_, trimmed, ?_, ?_⟩
  · rw [base, isHttp_iff_of_scheme known, beyond]
  · exact whole ▸ getLast?_trimSlashes c.apiBaseUrl
  · exact whole ▸ exists_trimSlashes_append c.apiBaseUrl
  · rw [begins, List.head?_cons]
  · intro named
    obtain ⟨x, mem, seen⟩ := (beyond _).mp named
    have other : ∃ x ∈ left, Url.isPassed x = false := ⟨x, (kept seen).mpr mem, seen⟩
    rw [asked, asked, begins, Url.firstPart_append_of_not_passed other]
    exact (Url.firstPart_append_of_not_passed other []).symm
  · intro unnamed
    have passed : ∀ x ∈ left, Url.isPassed x = true := by
      intro x mem
      by_contra seen
      have seen : Url.isPassed x = false := by simpa using seen
      exact unnamed ((beyond _).mpr ⟨x, (kept seen).mp mem, seen⟩)
    rw [asked, begins, Url.firstPart_append_of_passed passed]

/-- The least that settings have to say, with a base. -/
def leastDocument (base : String) : String :=
  "api_base_url = \"" ++ base ++ "\"\nrequest_timeout_ms = 5000\ndedupe_interval_ms = 2000\n"
    ++ "polling_interval_ms = 5000\nlogs_polling_interval_ms = 2000\n\n[auth]\n\n"
    ++ "[log]\nformat = \"json\"\nfilter = \"info\"\n"

def leastConfig (base : String) : ClientConfig where
  apiBaseUrl := base
  requestTimeout := 5000
  dedupeInterval := 2000
  pollingInterval := 5000
  logsPollingInterval := 2000
  apiKey := none
  log := { format := .json, filter := "info" }

/-- With a server in the base, no path names another one. -/
theorem named_server_asked :
    ClientConfig.ofText (leastDocument "http://h/") = .ok (leastConfig "http://h/")
      ∧ Endpoint.ofConfig? (leastConfig "http://h/") = some { baseUrl := "http://h" }
      ∧ apiPath? " jobs " = some "/jobs"
      ∧ ClientConfig.isHttp "http://h" = true
      ∧ Url.server "http://h/jobs" = "h".toList := by
  have accepted :
      ClientConfig.ofText (leastDocument "http://h/") = .ok (leastConfig "http://h/") := by
    decide +kernel
  have built : Endpoint.ofConfig? (leastConfig "http://h/") = some { baseUrl := "http://h" } := by
    decide +kernel
  have read : apiPath? " jobs " = some "/jobs" := by decide +kernel
  have beyond (passed : Char → Bool) (seen : passed 'h' = false) :
      (leastConfig "http://h/").Beyond passed := ⟨['h', '/'], by decide +kernel, 'h', by simp, seen⟩
  obtain ⟨http, -, -, -, -, -, same, -⟩ := Endpoint.request_url accepted built read
  refine ⟨accepted, built, read, http.mpr (beyond _ (by decide)), ?_⟩
  have asked := same (beyond _ (by decide))
  exact asked.trans (by decide +kernel)

/-- A scheme with slashes alone is accepted, and loses them: the path names the server. -/
theorem path_taken_for_server :
    ClientConfig.ofText (leastDocument "https://") = .ok (leastConfig "https://")
      ∧ Endpoint.ofConfig? (leastConfig "https://") = some { baseUrl := "https:" }
      ∧ apiPath? "api/v1" = some "/api/v1"
      ∧ ClientConfig.isHttp "https:" = false
      ∧ Endpoint.urlFor { baseUrl := "https:" } "/api/v1" = "https:/api/v1"
      ∧ Url.server "https:/api/v1" = "api".toList := by
  decide +kernel

end Refetch

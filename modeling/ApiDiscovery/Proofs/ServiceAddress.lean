import ApiDiscovery.Proofs.Joining
import Mathlib.Data.Nat.Digits.Defs

/-!
The address of a cluster, put together from the host and the port that its programs are told. The colons of
a literal stand between brackets, so that the one behind them is the port's; such an address has no path, and
a request keeps its own behind it.
-/

namespace ApiDiscovery

namespace Text

variable {stop : Char} {run : List Char}

theorem takeWhile_of_free (free : stop ∉ run) : run.takeWhile (· != stop) = run := by
  rw [List.takeWhile_eq_self_iff]
  intro character member
  rw [bne_iff_ne]
  rintro rfl
  exact free member

theorem takeWhile_of_until (free : stop ∉ run) (rest : List Char) :
    (run ++ stop :: rest).takeWhile (· != stop) = run := by
  rw [List.takeWhile_append, takeWhile_of_free free, if_pos rfl, List.takeWhile_cons_of_neg (by simp),
    List.append_nil]

end Text

namespace Authority

def isOrdinary (character : Char) : Bool := isCharacter character && !":[]@%".toList.contains character

theorem isOrdinary_of_isAlphanum {character : Char} (alphanumeric : character.isAlphanum = true) :
    isOrdinary character = true := by
  have apart : ":[]@%".toList.contains character = false := by
    have none : ":[]@%".toList.all (!·.isAlphanum) = true := by decide
    by_contra special
    simp only [Bool.not_eq_false, List.contains_iff_mem] at special
    simpa [alphanumeric] using List.all_eq_true.mp none character special
  rw [isOrdinary, isCharacter, alphanumeric, apart]
  rfl

section Check

variable {state : State}

theorem next_ordinary (settled : state.afterAt = false) {character : Char}
    (ordinary : isOrdinary character = true) : state.next character = .ok state := by
  have parts : isCharacter character = true ∧ character ≠ ':' ∧ character ≠ '[' ∧ character ≠ ']' ∧
      character ≠ '@' ∧ character ≠ '%' := by
    simpa [isOrdinary] using ordinary
  obtain ⟨colons, opened, closed, percent, afterAt⟩ := state
  cases settled
  simp [State.next, parts]

theorem next_colon (settled : state.afterAt = false) (few : state.colons < 8) :
    state.next ':' = .ok { state with colons := state.colons + 1 } := by
  have isColon : isCharacter ':' = true := by decide
  simp [State.next, isColon, settled, Nat.not_le.mpr few]

theorem check_cons {next : State} {character : Char} (stepped : state.next character = .ok next)
    (rest : List Char) : check state (character :: rest) = check next rest := by
  rw [check, stepped]
  rfl

theorem check_run (settled : state.afterAt = false) {run : List Char}
    (passed : ∀ character ∈ run, character = ':' ∨ isOrdinary character = true)
    (few : state.colons + run.count ':' ≤ 8) (rest : List Char) :
    check state (run ++ rest) = check { state with colons := state.colons + run.count ':' } rest := by
  induction run generalizing state with
  | nil => rfl
  | cons first others ih =>
      simp only [List.mem_cons, forall_eq_or_imp] at passed
      by_cases colon : first = ':'
      · have later := @ih { state with colons := state.colons + 1 } settled passed.2
        rw [colon, List.count_cons_self] at few ⊢
        rw [List.cons_append, check_cons (next_colon settled (by omega)), later (by simp only; omega)]
        simp only [Nat.add_assoc, Nat.add_comm 1]
      · rw [List.count_cons_of_ne colon] at few ⊢
        rw [List.cons_append, check_cons (next_ordinary settled (passed.1.resolve_left colon)),
          ih settled passed.2 few]

theorem isCharacter_of_check {characters : List Char} (checked : check state characters = .ok ()) :
    ∀ character ∈ characters, isCharacter character = true := by
  induction characters generalizing state with
  | nil => simp
  | cons first rest ih =>
      obtain ⟨next, stepped, checked⟩ := Except.bind_eq_ok.mp checked
      have isFirst : isCharacter first = true := by
        by_contra other
        rw [Bool.not_eq_true] at other
        simp [State.next, other] at stepped
      simpa [isFirst] using ih checked

end Check

theorem isEnd_of_isCharacter {character : Char} (admitted : isCharacter character = true) :
    isEnd character = false := by
  simp only [isEnd, Bool.or_eq_false_iff, beq_eq_false_iff_ne]
  refine ⟨⟨?_, ?_⟩, ?_⟩ <;> rintro rfl <;> cases admitted

end Authority

structure IsNumeral (numeral : String) (number : Nat) : Prop where
  filled : numeral ≠ ""
  digits : ∀ character ∈ numeral.toList, character.isDigit = true
  value : Nat.ofDigits 10 (numeral.toList.reverse.map fun digit => digit.toNat - '0'.toNat) = number

instance (numeral : String) (number : Nat) : Decidable (IsNumeral numeral number) :=
  decidable_of_iff
    (numeral ≠ "" ∧ numeral.toList.all Char.isDigit = true ∧
      Nat.ofDigits 10 (numeral.toList.reverse.map fun digit => digit.toNat - '0'.toNat) = number)
    ⟨fun ⟨filled, digits, value⟩ => { filled, digits := List.all_eq_true.mp digits, value },
      fun numeral => ⟨numeral.filled, List.all_eq_true.mpr numeral.digits, numeral.value⟩⟩

namespace Target

variable {target : Target}

theorem path_of_slashed (slashed : target.text.toList.head? = some '/') :
    ∃ rest, target.path.toList = '/' :: rest := by
  rw [toList_text] at slashed
  cases path : target.path.toList with
  | nil =>
      rw [path] at slashed
      cases query : target.query <;> simp [query] at slashed
  | cons first rest =>
      rw [path] at slashed
      cases slashed
      exact ⟨rest, rfl⟩

theorem filled_of_slashed (slashed : target.text.toList.head? = some '/') : target.path ≠ "" := by
  obtain ⟨rest, path⟩ := path_of_slashed slashed
  rintro empty
  simp [empty] at path

theorem print_of_slashed (slashed : target.text.toList.head? = some '/') : target.print = target.text := by
  rw [print, printedPath, if_neg (filled_of_slashed slashed), text]

def pathless : Target := { path := "", query := none }

theorem sound_pathless : pathless.Sound := { path := by simp [pathless], query := by simp [pathless] }

theorem pathless_behind (slashed : target.text.toList.head? = some '/') : pathless.behind target = target := by
  have filled := filled_of_slashed slashed
  simp [behind, pathless, printedPath, filled, Uri.trimSlashes]

end Target

namespace Uri

theorem portNumber?_of_isNumeral {numeral : String} {number : Nat} (isNumeral : IsNumeral numeral number)
    (small : number ≤ 65535) : portNumber? numeral.toList = some number := by
  have value : numeral.toList.foldl (fun value digit => value * 10 + (digit.toNat - '0'.toNat)) 0 =
      number := by
    rw [← isNumeral.value, Nat.ofDigits_eq_foldr, List.foldr_map, List.foldr_reverse]
    simp only [Nat.cast_id, Nat.add_comm, Nat.mul_comm]
  have filled : numeral.toList.isEmpty = false := by
    simpa using isNumeral.filled
  have digits : numeral.toList.all Char.isDigit = true := List.all_eq_true.mpr isNumeral.digits
  have unsigned : ∀ rest, numeral.toList ≠ '+' :: rest := by
    intro rest signed
    have plus := isNumeral.digits '+' (by simp [signed])
    cases plus
  unfold portNumber?
  split
  · next rest signed => exact absurd signed (unsigned rest)
  · simp only [filled, digits, value, Bool.not_true, Bool.or_self, Bool.false_eq_true, if_false]
    rw [if_pos (by omega)]

theorem parse_https {name : String} (filled : name ≠ "") (checked : Authority.check {} name.toList = .ok ())
    (short : Text.byteLength ("https://" ++ name).toList ≤ maximalLength) :
    parse ("https://" ++ name) = .ok (.absolute "https" name .pathless) := by
  have goesOn : ∀ character ∈ name.toList, (!Authority.isEnd character) = true := by
    intro character member
    rw [Authority.isEnd_of_isCharacter (Authority.isCharacter_of_check checked character member)]
    rfl
  have whole : name.toList.takeWhile (!Authority.isEnd ·) = name.toList :=
    List.takeWhile_eq_self_iff.mpr goesOn
  have nothing : name.toList.dropWhile (!Authority.isEnd ·) = [] := List.dropWhile_eq_nil_iff.mpr goesOn
  have present : name.toList.isEmpty = false := by
    simpa using filled
  have spelled : ("https://" ++ name).toList = "https://".toList ++ name.toList := by simp
  have scheme : splitScheme ("https://".toList ++ name.toList) = .ok (some ("https", name.toList)) := rfl
  have full : parse ("https://" ++ name) = parseFull ("https://".toList ++ name.toList) := by
    rw [parse, if_neg (Nat.not_lt.mpr short), spelled]
    rfl
  have pathless : Target.parse [] = .ok .pathless := rfl
  rw [full, parseFull, scheme]
  simp only [bind, Except.bind, whole, nothing, present, checked, pathless, Bool.false_eq_true, if_false,
    String.ofList_toList]
  rfl

theorem behind_server (scheme name : String) {characters : List Char} {target : Target} {request : Uri}
    (read : Target.parse characters = .ok target) (slashed : target.text.toList.head? = some '/')
    (requested : request.target? = some target) :
    (absolute scheme name .pathless).behind request = .absolute scheme name target := by
  have readFrom := Target.readFrom_of_parse read
  obtain ⟨rest, path⟩ := Target.path_of_slashed slashed
  have kept := Target.pathless_behind slashed
  have short : (absolute scheme name .pathless).Fits request := by
    rw [Fits, requested, target?, Target.joined_eq_text, kept]
    exact readFrom.short
  have joins := joins_of_anchored rfl requested Target.sound_pathless (Target.rooted_of_empty rfl)
    readFrom.sound (Target.rooted_of_slash path) short
  rw [kept] at joins
  exact (Option.some.inj joins.assembled).symm

end Uri

namespace Host

structure IsName (host : String) : Prop where
  filled : host ≠ ""
  characters : ∀ character ∈ host.toList, character.isAlphanum = true ∨ character = '.' ∨ character = '-'

structure IsLiteral (literal : String) : Prop where
  characters : ∀ character ∈ literal.toList, character ∈ "0123456789abcdefABCDEF.:".toList
  atLeastTwo : 2 ≤ literal.toList.count ':'
  atMostSeven : literal.toList.count ':' ≤ 7

instance (literal : String) : Decidable (IsLiteral literal) :=
  decidable_of_iff
    (literal.toList.all ("0123456789abcdefABCDEF.:".toList.contains ·) = true ∧
      2 ≤ literal.toList.count ':' ∧ literal.toList.count ':' ≤ 7)
    (by simp only [List.all_eq_true, List.contains_iff_mem]
        exact ⟨fun ⟨characters, atLeastTwo, atMostSeven⟩ => { characters, atLeastTwo, atMostSeven },
          fun literal => ⟨literal.characters, literal.atLeastTwo, literal.atMostSeven⟩⟩)

/-- How a host may be given: a name as it is, a literal with its brackets or without them. -/
inductive Spelling : String → String → Prop where
  | name {host : String} (isName : IsName host) : Spelling host host
  | bare {literal : String} (isLiteral : IsLiteral literal) : Spelling literal ("[" ++ literal ++ "]")
  | bracketed {literal : String} (isLiteral : IsLiteral literal) :
      Spelling ("[" ++ literal ++ "]") ("[" ++ literal ++ "]")

variable {spelling host literal port : String} {number : Nat}

theorem IsName.ordinary (isName : IsName host) :
    ∀ character ∈ host.toList, Authority.isOrdinary character = true := by
  intro character member
  rcases isName.characters character member with alphanumeric | rfl | rfl
  · exact Authority.isOrdinary_of_isAlphanum alphanumeric
  · decide
  · decide

theorem IsLiteral.passed (isLiteral : IsLiteral literal) :
    ∀ character ∈ literal.toList, character = ':' ∨ Authority.isOrdinary character = true := by
  intro character member
  have all : "0123456789abcdefABCDEF.:".toList.all
      (fun character => character = ':' || Authority.isOrdinary character) = true := by
    decide
  simpa using List.all_eq_true.mp all character (isLiteral.characters character member)

theorem Spelling.host_cases (spelled : Spelling spelling host) :
    IsName host ∨ ∃ literal, IsLiteral literal ∧ host = "[" ++ literal ++ "]" := by
  cases spelled with
  | name isName => exact Or.inl isName
  | bare isLiteral => exact Or.inr ⟨_, isLiteral, rfl⟩
  | bracketed isLiteral => exact Or.inr ⟨_, isLiteral, rfl⟩

theorem bracketed_of_spelling (spelled : Spelling spelling host) : Cluster.bracketed spelling = host := by
  cases spelled with
  | name isName =>
      have colonless : ':' ∉ spelling.toList := by
        intro member
        cases isName.ordinary ':' member
      simp [Cluster.bracketed, colonless]
  | bare isLiteral =>
      have colon : ':' ∈ spelling.toList := List.one_le_count_iff.mp (by have := isLiteral.atLeastTwo; omega)
      have unbracketed : spelling.toList.head? ≠ some '[' := by
        intro opened
        have member := isLiteral.characters '[' (List.mem_of_mem_head? opened)
        exact absurd member (by decide)
      simp [Cluster.bracketed, colon, unbracketed]
  | bracketed isLiteral => simp [Cluster.bracketed]

theorem toList_address (host port : String) :
    (host ++ ":" ++ port).toList = host.toList ++ ':' :: port.toList := by
  simp

theorem toList_bracketed (literal : String) :
    ("[" ++ literal ++ "]").toList = '[' :: (literal.toList ++ [']']) := by
  simp

theorem count_colon_of_ordinary {run : List Char}
    (ordinary : ∀ character ∈ run, Authority.isOrdinary character = true) : run.count ':' = 0 := by
  rw [List.count_eq_zero]
  intro member
  cases ordinary ':' member

theorem ordinary_of_isNumeral (isNumeral : IsNumeral port number) :
    ∀ character ∈ port.toList, Authority.isOrdinary character = true := by
  intro character member
  refine Authority.isOrdinary_of_isAlphanum ?_
  simp [Char.isAlphanum, isNumeral.digits character member]

theorem check_port (isNumeral : IsNumeral port number) (bracketed : Bool) :
    Authority.check { opened := bracketed, closed := bracketed } (':' :: port.toList) = .ok () := by
  have ordinary := ordinary_of_isNumeral isNumeral
  have colons : (':' :: port.toList).count ':' = 1 := by
    rw [List.count_cons_self, count_colon_of_ordinary ordinary]
  have passed : ∀ character ∈ ':' :: port.toList, character = ':' ∨ Authority.isOrdinary character = true := by
    simp only [List.mem_cons, forall_eq_or_imp, true_or, true_and]
    exact fun character member => Or.inr (ordinary character member)
  rw [← List.append_nil (':' :: port.toList), Authority.check_run rfl passed (by simp [colons]), colons]
  cases bracketed <;> rfl

theorem check_address (spelled : Spelling spelling host) (isNumeral : IsNumeral port number) :
    Authority.check {} (host ++ ":" ++ port).toList = .ok () := by
  rcases spelled.host_cases with isName | ⟨literal, isLiteral, rfl⟩
  · have ordinary := isName.ordinary
    have colonless := count_colon_of_ordinary ordinary
    rw [toList_address, Authority.check_run rfl (fun character member => Or.inr (ordinary character member))
      (by rw [colonless]; decide), colonless]
    exact check_port isNumeral false
  · have few := isLiteral.atMostSeven
    have opened : Authority.State.next {} '[' = .ok { opened := true } := rfl
    rw [toList_address, toList_bracketed, List.cons_append, List.append_assoc, Authority.check_cons opened,
      Authority.check_run rfl isLiteral.passed (by simp only; omega)]
    exact check_port isNumeral true

theorem colonless_of_isNumeral (isNumeral : IsNumeral port number) : ':' ∉ port.toList := by
  intro member
  cases ordinary_of_isNumeral isNumeral ':' member

theorem userless_of_spelling (spelled : Spelling spelling host) : '@' ∉ host.toList := by
  intro member
  rcases spelled.host_cases with isName | ⟨literal, isLiteral, rfl⟩
  · cases isName.ordinary '@' member
  · simp only [toList_bracketed, List.mem_cons, List.mem_append, List.not_mem_nil, or_false] at member
    rcases member with opened | inside | closed
    · cases opened
    · exact absurd (isLiteral.characters '@' inside) (by decide)
    · cases closed

theorem userless_address (spelled : Spelling spelling host) (isNumeral : IsNumeral port number) :
    '@' ∉ (host ++ ":" ++ port).toList := by
  rw [toList_address, List.mem_append, List.mem_cons]
  rintro (inHost | isColon | inPort)
  · exact userless_of_spelling spelled inHost
  · cases isColon
  · cases ordinary_of_isNumeral isNumeral '@' inPort

theorem authorityHost_name (isName : IsName host) (userless : '@' ∉ (host ++ ":" ++ port).toList) :
    Uri.authorityHost (host ++ ":" ++ port) = host := by
  have colonless : ':' ∉ host.toList := by
    intro member
    cases isName.ordinary ':' member
  have unopened : ∀ rest, host.toList ++ ':' :: port.toList ≠ '[' :: rest := by
    intro rest opened
    rcases List.append_eq_cons_iff.mp opened with ⟨-, colon⟩ | ⟨others, front, -⟩
    · cases colon
    · cases isName.ordinary '[' (by simp [front])
  rw [Uri.authorityHost, Text.takeWhile_of_free (by rwa [List.mem_reverse]), List.reverse_reverse,
    toList_address]
  split
  · next rest opened => exact absurd opened (unopened rest)
  · rw [Text.takeWhile_of_until colonless, String.ofList_toList]

theorem authorityHost_literal (isLiteral : IsLiteral literal)
    (userless : '@' ∉ ("[" ++ literal ++ "]" ++ ":" ++ port).toList) :
    Uri.authorityHost ("[" ++ literal ++ "]" ++ ":" ++ port) = "[" ++ literal ++ "]" := by
  have unclosed : ']' ∉ literal.toList := by
    intro member
    exact absurd (isLiteral.characters ']' member) (by decide)
  rw [Uri.authorityHost, Text.takeWhile_of_free (by rwa [List.mem_reverse]), List.reverse_reverse,
    toList_address, toList_bracketed, List.cons_append, List.append_assoc, List.singleton_append]
  simp only [Text.takeWhile_of_until unclosed]
  rw [← String.toList_inj, toList_bracketed, String.toList_ofList, List.cons_append]

theorem authorityHost_address (spelled : Spelling spelling host) (isNumeral : IsNumeral port number) :
    Uri.authorityHost (host ++ ":" ++ port) = host := by
  have userless := userless_address spelled isNumeral
  rcases spelled.host_cases with isName | ⟨literal, isLiteral, rfl⟩
  · exact authorityHost_name isName userless
  · exact authorityHost_literal isLiteral userless

theorem authorityPort?_address (host : String) (isNumeral : IsNumeral port number) (small : number ≤ 65535) :
    Uri.authorityPort? (host ++ ":" ++ port) = some number := by
  have colonless : ':' ∉ port.toList.reverse := by
    simpa using colonless_of_isNumeral isNumeral
  have behind : ((host ++ ":" ++ port).toList.reverse.takeWhile (· != ':')).reverse = port.toList := by
    rw [toList_address, List.reverse_append, List.reverse_cons, List.append_assoc, List.singleton_append,
      Text.takeWhile_of_until colonless, List.reverse_reverse]
  have colon : (host ++ ":" ++ port).toList.contains ':' = true := by simp
  rw [Uri.authorityPort?, if_pos colon, behind]
  exact Uri.portNumber?_of_isNumeral isNumeral small

end Host

namespace Cluster

open Host

variable {spelling host port : String} {number : Nat}

theorem urlOf_of_spelling (spelled : Spelling spelling host) (isNumeral : IsNumeral port number)
    (short : Text.byteLength ("https://" ++ host ++ ":" ++ port).toList ≤ Uri.maximalLength) :
    urlOf spelling port = .ok (.absolute "https" (host ++ ":" ++ port) .pathless) := by
  have text : "https://" ++ host ++ ":" ++ port = "https://" ++ (host ++ ":" ++ port) := by
    simp only [String.append_assoc]
  have filled : host ++ ":" ++ port ≠ "" := by
    intro empty
    have characters := congrArg String.toList empty
    simp at characters
  rw [text] at short
  rw [urlOf, bracketed_of_spelling spelled, text,
    Uri.parse_https filled (check_address spelled isNumeral) short]
  rfl

/-- The host and the port that programs inside a cluster are told make up its address, with the brackets of a
literal written once however it is given, and requests with a path are sent to this host and port with their
path and query as they are. -/
theorem service_addressed (spelled : Spelling spelling host) (isNumeral : IsNumeral port number)
    (small : number ≤ 65535)
    (short : Text.byteLength ("https://" ++ host ++ ":" ++ port).toList ≤ Uri.maximalLength) :
    ∃ url, urlOf spelling port = .ok url ∧ url.scheme? = some "https" ∧
      url.authority? = some (host ++ ":" ++ port) ∧ url.host? = some host ∧ url.port? = some number ∧
      url.printedPath = "/" ∧ url.query? = none ∧
      (∀ other, Spelling other host → urlOf other port = .ok url) ∧
      (∀ environment : PodEnvironment, environment.host = some spelling → environment.port = some port →
        ofEnvironment environment =
          (fun defaultNamespace => { url, defaultNamespace }) <$> namespaceOf environment.namespaceFile) ∧
      ∀ cluster : Cluster, cluster.url = url →
        ∀ characters target, Target.parse characters = .ok target → target.text.toList.head? = some '/' →
          ∀ request : Uri, request.target? = some target →
            (cluster.addressOf request).print = "https://" ++ host ++ ":" ++ port ++ target.text := by
  refine ⟨_, urlOf_of_spelling spelled isNumeral short, rfl, rfl, ?_, ?_, rfl, rfl, ?_, ?_, ?_⟩
  · exact congrArg some (authorityHost_address spelled isNumeral)
  · exact authorityPort?_address host isNumeral small
  · exact fun other otherSpelled => urlOf_of_spelling otherSpelled isNumeral short
  · intro environment givenHost givenPort
    rw [ofEnvironment, givenHost, givenPort]
    simp only [urlOf_of_spelling spelled isNumeral short]
    rfl
  · intro cluster located characters target read slashed request requested
    have forwarded := Uri.behind_server "https" (host ++ ":" ++ port) read slashed requested
    rw [addressOf, located, forwarded, Uri.print, Target.print_of_slashed slashed]
    simp only [String.append_assoc]
    rfl

theorem literal_service_addressed :
    let environment : PodEnvironment :=
      { host := some "fd00::1", port := some "6443", namespaceFile := some [112, 114, 111, 100, 10] }
    let pods := Uri.path { path := "/api/v1/pods", query := some "limit=1" }
    Spelling "fd00::1" "[fd00::1]" ∧ IsNumeral "6443" 6443 ∧
      ∃ cluster, ofEnvironment environment = .ok cluster ∧ cluster.defaultNamespace = "prod" ∧
        cluster.url.host? = some "[fd00::1]" ∧ cluster.url.port? = some 6443 ∧
        urlOf "[fd00::1]" "6443" = .ok cluster.url ∧
        (cluster.addressOf pods).print = "https://[fd00::1]:6443/api/v1/pods?limit=1" := by
  intro environment pods
  have isLiteral : IsLiteral "fd00::1" := by decide
  have bare : Spelling "fd00::1" "[fd00::1]" := .bare isLiteral
  have bracketed : Spelling "[fd00::1]" "[fd00::1]" := .bracketed isLiteral
  have isNumeral : IsNumeral "6443" 6443 := by decide
  have namespaceRead : namespaceOf (some [112, 114, 111, 100, 10]) = .ok "prod" := by decide +kernel
  have podsRead : Target.parse "/api/v1/pods?limit=1".toList =
      .ok { path := "/api/v1/pods", query := some "limit=1" } := by decide +kernel
  obtain ⟨url, made, _, _, host, port, _, _, alike, within, forwarded⟩ :=
    service_addressed bare isNumeral (by decide) (by decide +kernel)
  refine ⟨bare, isNumeral, { url, defaultNamespace := "prod" }, ?_, rfl, host, port, alike _ bracketed, ?_⟩
  · rw [within environment rfl rfl, namespaceRead]
    rfl
  · rw [forwarded _ rfl _ _ podsRead (by decide) pods rfl]
    decide

end Cluster

end ApiDiscovery

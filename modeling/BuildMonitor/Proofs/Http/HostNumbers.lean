import Mathlib.Data.List.MinMax
import Mathlib.Data.List.TakeWhile
import BuildMonitor.Proofs.Cli.Effective
import BuildMonitor.Proofs.Http.AddressText

/-!
# Hosts given as numbers

The host of a server is the number of an address. What is listened on is what the host, a colon and
the port read as. For four octets that is the address, whatever they are: nothing gets lost. But
eight groups have colons of their own, and an address of eight groups with a port behind it needs
brackets, which nothing puts around the host. So no such host can be served on as it is written,
neither as it is printed nor in any other way of writing it; it takes a host with the brackets in
it: `hosts_read_with_port`.

Main definitions: `HostNumber`, `HostNumber.text`, `HostNumber.Writes`.
Main statement: `hosts_read_with_port`.
-/

namespace BuildMonitor.Http

open BuildMonitor.Text BuildMonitor.Http.Address

/-! ## Numbers of hosts -/

/-- The number of a host: four octets, or eight groups of sixteen bits. -/
inductive HostNumber where
  | short (octets : Vector UInt8 4)
  | long (groups : Vector UInt16 8)
  deriving DecidableEq, Repr

/-- How many of the groups from one on are zero. -/
def zerosFrom (groups : List Nat) (start : Nat) : Nat :=
  ((groups.drop start).takeWhile (· == 0)).length

/-- Where the longest run of zeros begins, the first of several. -/
def longestRun (groups : List Nat) : Nat :=
  ((List.range groups.length).argmax (zerosFrom groups)).getD 0

/-- Groups in hexadecimal with colons between them, and in front if they stand behind others. -/
def groupsText (behind : Bool) : List Nat → List Char
  | [] => []
  | group :: groups => lead behind ++ (Nat.toDigits 16 group ++ groupsText true groups)

/-- How eight groups are printed. The longest run of zeros is left out if it is one of two or more,
and groups that stand for four octets have these at their end. -/
def longText (groups : List Nat) : List Char :=
  let start := longestRun groups
  if groups.take 6 = [0, 0, 0, 0, 0, 65535] then
    "::ffff:".toList ++
      dotted ((groups.drop 6).flatMap fun group => [group / 256, group % 256])
  else if zerosFrom groups start < 2 then groupsText false groups
  else
    groupsText false (groups.take start) ++
      ':' :: ':' :: groupsText false ((groups.drop start).dropWhile (· == 0))

namespace HostNumber

/-- How a number is printed. -/
def text : HostNumber → String
  | .short octets => String.ofList (dotted (octets.toList.map UInt8.toNat))
  | .long groups => String.ofList (longText (groups.toList.map UInt16.toNat))

/-- The text is a way of writing the number: for octets the printed one, for groups any. -/
def Writes : HostNumber → String → Prop
  | .short octets, host => host.toList = dotted (octets.toList.map UInt8.toNat)
  | .long groups, host => Spells (groups.toList.map UInt16.toNat) host.toList

/-- The address that a number and a port make up. -/
def withPort : HostNumber → Nat → Address
  | .short octets, port => .short (octets.toList.map UInt8.toNat) port
  | .long groups, port => .long (groups.toList.map UInt16.toNat) 0 port

end HostNumber

/-- A host with brackets around it. -/
def bracketed (host : String) : String := s!"[{host}]"

variable {groups : List Nat} {group : Nat} {host : String} {port : Nat}

/-! ## What is printed is a way of writing -/

private theorem hexDigit?_digitChar : ∀ digit < 16, hexDigit? digit.digitChar = some digit := by
  decide

/-- The digits of a number in hexadecimal are read as the number. -/
private theorem toDigits_sixteen (value : Nat) :
    (∀ character ∈ Nat.toDigits 16 value, (hexDigit? character).isSome = true) ∧
      valueOf 16 ((Nat.toDigits 16 value).filterMap hexDigit?) = value := by
  induction value using Nat.strongRecOn with
  | _ value inductionHypothesis =>
    by_cases small : value < 16
    · rw [Nat.toDigits_of_lt_base small]
      have read := hexDigit?_digitChar value small
      simp [read, valueOf]
    · obtain ⟨digits, read⟩ := inductionHypothesis (value / 16) (by omega)
      have last := hexDigit?_digitChar (value % 16) (Nat.mod_lt _ (by decide))
      rw [Nat.toDigits_of_base_le (by decide) (by omega)]
      refine ⟨List.forall_mem_append.mpr ⟨digits, by simp [last]⟩, ?_⟩
      rw [valueOf] at read
      rw [valueOf, List.filterMap_append, List.foldl_append, read]
      simp only [List.filterMap_cons, last, List.filterMap_nil, List.foldl_cons, List.foldl_nil]
      omega

/-- A group is written as it is printed. -/
theorem writesGroup_toDigits (small : group < 65536) :
    WritesGroup group (Nat.toDigits 16 group) where
  ne_nil := Nat.toDigits_ne_nil
  length_le := (Nat.length_toDigits_le_iff (by decide) (by decide)).mpr small
  digits := (toDigits_sixteen group).1
  value := (toDigits_sixteen group).2

/-- Groups that are printed with colons between them are written one after the other. -/
theorem joined_groupsText (small : ∀ group ∈ groups, group < 65536) (behind : Bool) :
    Joined behind groups false (groupsText behind groups) := by
  induction groups generalizing behind with
  | nil => exact .none
  | cons group others inductionHypothesis =>
    obtain ⟨first, later⟩ := List.forall_mem_cons.mp small
    exact .group (writesGroup_toDigits first) (inductionHypothesis later true)

/-- A run of zeros, with what stands in front of it and behind it, is all of the groups. -/
theorem take_append_zeros (groups : List Nat) (start : Nat) :
    groups.take start ++ List.replicate (zerosFrom groups start) 0 ++
      (groups.drop start).dropWhile (· == 0) = groups := by
  have zeros : (groups.drop start).takeWhile (· == 0) =
      List.replicate (zerosFrom groups start) 0 :=
    List.eq_replicate_iff.mpr ⟨rfl, fun _ found => by simpa using List.mem_takeWhile_imp found⟩
  rw [← zeros, List.append_assoc, List.takeWhile_append_dropWhile, List.take_append_drop]

/-- Four octets at the end of groups are those that the last two groups are made of. -/
private theorem spells_mapped {high low : Nat} (high_lt : high < 65536) (low_lt : low < 65536) :
    Spells [0, 0, 0, 0, 0, 65535, high, low]
      ("::ffff:".toList ++ dotted [high / 256, high % 256, low / 256, low % 256]) := by
  have pair : groupsOfOctets [high / 256, high % 256, low / 256, low % 256] = [high, low] := by
    simp [groupsOfOctets, Nat.div_add_mod']
  have ones : Joined false [65535, high, low] true
      (lead false ++ ("ffff".toList ++
        (lead true ++ dotted [high / 256, high % 256, low / 256, low % 256]))) := by
    refine .group (writesGroup_toDigits (by decide : 65535 < 65536)) ?_
    rw [← pair]
    refine .octets rfl ?_
    simp only [List.forall_mem_cons]
    exact ⟨by omega, by omega, by omega, by omega, nofun⟩
  exact (.gap .none ones rfl : Spells ([] ++ List.replicate (4 + 1) 0 ++ [65535, high, low]) _)

/-- Eight groups are printed in one of the ways of writing them. -/
theorem spells_longText (eight : groups.length = 8) (small : ∀ group ∈ groups, group < 65536) :
    Spells groups (longText groups) := by
  have whole := take_append_zeros groups (longestRun groups)
  rw [longText]
  split
  case isTrue mapped =>
    match groups, eight, mapped with
    | [_, _, _, _, _, _, high, low], _, rfl =>
      exact spells_mapped (small high (by simp)) (small low (by simp))
  case isFalse =>
    split
    · exact .whole (joined_groupsText small false) eight
    · next many =>
      obtain ⟨zeros, run⟩ : ∃ zeros, zerosFrom groups (longestRun groups) = zeros + 1 :=
        Nat.exists_eq_add_one_of_ne_zero (by omega)
      rw [run] at whole
      have lengths := congrArg List.length whole
      rw [List.length_append, List.length_append, List.length_replicate, eight] at lengths
      have front : ∀ group ∈ groups.take (longestRun groups), group < 65536 :=
        fun group found => small group (List.mem_of_mem_take found)
      have back : ∀ group ∈ (groups.drop (longestRun groups)).dropWhile (· == 0),
          group < 65536 := fun group found =>
        small group (List.mem_of_mem_drop ((List.dropWhile_suffix _).mem found))
      have spells := Spells.gap (joined_groupsText front false) (joined_groupsText back false)
        lengths
      rwa [whole] at spells

/-- The printed text is one way of writing the number. -/
theorem HostNumber.writes_text (number : HostNumber) : number.Writes number.text := by
  cases number with
  | short octets => exact String.toList_ofList
  | long groups =>
    rw [Writes, text, String.toList_ofList]
    exact spells_longText (by simp) (by simpa using fun group _ => group.toNat_lt)

example : (HostNumber.long #v[1, 0, 0, 1, 0, 0, 1, 0xA]).text = "1::1:0:0:1:a" := by
  decide +kernel

/-! ## What hosts and ports read as -/

private theorem toList_joined (host : String) (port : Nat) :
    s!"{host}:{port}".toList = host.toList ++ ':' :: Nat.toDigits 10 port := by
  change (host ++ ":" ++ toString port).toList = _
  rw [String.toList_append, String.toList_append, List.append_assoc, Nat.toString_eq_repr,
    Nat.toList_repr]
  rfl

/-- Four octets and a port are read as they are written. -/
theorem ofText?_of_short {octets : Vector UInt8 4} (writes : (HostNumber.short octets).Writes host)
    (most : port ≤ 65535) :
    ofText? s!"{host}:{port}" = some ((HostNumber.short octets).withPort port) := by
  have small : ∀ octet ∈ octets.toList.map UInt8.toNat, octet ≤ 255 := by
    simpa using fun octet _ => Nat.le_of_lt_succ octet.toNat_lt
  have ends : EndsDigits (':' :: Nat.toDigits 10 port) := by
    rintro _ ⟨⟩
    rfl
  have read := readOctets_dotted small ends
  rw [List.length_map, Vector.length_toList] at read
  rw [HostNumber.Writes] at writes
  rw [ofText?, toList_joined, writes, readShort?, read]
  simp [readPort_toDigits most, HostNumber.withPort]

/-- Eight groups and a port are read as they are written if brackets stand around the groups. -/
theorem ofText?_of_bracketed {groups : Vector UInt16 8}
    (writes : (HostNumber.long groups).Writes host) (most : port ≤ 65535) :
    ofText? s!"{bracketed host}:{port}" = some ((HostNumber.long groups).withPort port) := by
  have characters : (bracketed host).toList ++ ':' :: Nat.toDigits 10 port =
      '[' :: (host.toList ++ ']' :: ':' :: Nat.toDigits 10 port) := by
    change ("[" ++ host ++ "]").toList ++ _ = _
    simp
  have noOctets (rest : List Char) : readShort? ('[' :: rest) = none := rfl
  rw [ofText?, toList_joined, characters, noOctets, readBracketed?_of_spells writes most]
  rfl

/-- Without the brackets they are not read. -/
theorem ofText?_of_long {groups : Vector UInt16 8} (writes : (HostNumber.long groups).Writes host)
    (port : Nat) : ofText? s!"{host}:{port}" = none := by
  rw [ofText?, toList_joined, readShort?_of_spells writes, readBracketed?_of_spells_without writes]
  rfl

/-- What is listened on is an address that the host and the port read as. -/
theorem ofText?_of_launch {config : Config} {machine : Host} {words : String}
    (served : (Cli.launch config machine).1 = .ok words) :
    (ofText? s!"{config.server.host}:{config.server.port}").isSome = true := by
  unfold Cli.launch at served
  split at served
  · cases served
  split at served
  · cases served
  split at served
  · cases served
  split at served
  · cases served
  · next resolved =>
    unfold resolve at resolved
    split at resolved
    · cases resolved
    · next read => rw [read]; rfl

/-- The address of eight groups that leads back to the host. -/
def loopback : HostNumber := .long #v[0, 0, 0, 0, 0, 0, 0, 1]

/-- Every host could listen on it, but as a host it makes up no address. -/
theorem loopback_not_read :
    loopback.text = "::1" ∧
    (∀ own, (loopback.withPort 5000).isOwn own = true) ∧
    ofText? s!"{loopback.text}:{5000}" ≠ some (loopback.withPort 5000) ∧
    ∀ own, resolve own loopback.text 5000 = .error .malformed := by
  have unread : ofText? s!"{loopback.text}:{5000}" = none := by decide +kernel
  refine ⟨by decide +kernel, fun _ => rfl, ?_, fun own => ?_⟩
  · rw [unread]
    nofun
  · rw [resolve, unread]

/-- Every number is read back, with the port behind it, from every way of writing it: four octets
as they are, and eight groups with brackets around them. Eight groups without brackets are not read,
and no server is started on them, whatever else it is configured to do. -/
theorem hosts_read_with_port (number : HostNumber) {port : Nat} (most : port ≤ 65535) :
    number.Writes number.text ∧
    ∀ host, number.Writes host →
      match number with
      | .short _ => ofText? s!"{host}:{port}" = some (number.withPort port)
      | .long _ =>
        ofText? s!"{host}:{port}" = none ∧
        ofText? s!"{bracketed host}:{port}" = some (number.withPort port) ∧
        ∀ config machine words, config.server.host = host →
          (Cli.launch config machine).1 ≠ .ok words := by
  refine ⟨number.writes_text, fun host writes => ?_⟩
  cases number with
  | short octets => exact ofText?_of_short writes most
  | long groups =>
    refine ⟨ofText?_of_long writes port, ofText?_of_bracketed writes most, ?_⟩
    rintro config machine words rfl served
    have listened := ofText?_of_launch served
    rw [ofText?_of_long writes] at listened
    cases listened

/-- An address with a gap, at the greatest port. -/
theorem documentation_read_with_port :
    65535 ≤ 65535 ∧
    (HostNumber.long #v[0x2001, 0xdb8, 0, 0, 0, 0, 0, 1]).text = "2001:db8::1" ∧
    ofText? "2001:db8::1:65535" = none ∧
    ofText? "[2001:db8::1]:65535" = some (.long [0x2001, 0xdb8, 0, 0, 0, 0, 0, 1] 0 65535) := by
  obtain ⟨writes, read⟩ := hosts_read_with_port
    (.long #v[0x2001, 0xdb8, 0, 0, 0, 0, 0, 1]) (Nat.le_refl 65535)
  have printed : (HostNumber.long #v[0x2001, 0xdb8, 0, 0, 0, 0, 0, 1]).text = "2001:db8::1" := by
    decide +kernel
  rw [printed] at writes
  obtain ⟨bare, between, -⟩ := read "2001:db8::1" writes
  exact ⟨Nat.le_refl _, printed, bare, between⟩

end BuildMonitor.Http

import ApiPack2.Lib.Rotation

/-!
# The connections of the configuration

A `DatastoreConnectionInfo` hands out the URIs of its configuration one after the other. It
moves its position forward before it uses it, and back to the first URI when it reaches the
size of the list, which is below the range of its machine word.
-/

namespace ApiPack2

/-- `std::vector<std::string>`, whose size is a `size_t`. -/
structure UriVector where
  /-- The elements. -/
  uris : List String
  /-- There are not too many. -/
  fits : uris.length < 2 ^ 64

namespace UriVector

/-- `size`. -/
def size (vector : UriVector) : UInt64 := UInt64.ofNat vector.uris.length

/-- `empty`. -/
def empty (vector : UriVector) : Bool := vector.uris.isEmpty

/-- The element at a position, none past the end. -/
def get (vector : UriVector) (position : UInt64) : Option String :=
  vector.uris[position.toNat]?

@[simp]
theorem toNat_size (vector : UriVector) : vector.size.toNat = vector.uris.length :=
  UInt64.toNat_ofNat_of_lt' vector.fits

end UriVector

/-- What the configuration has under `database`. -/
structure DatabaseConfig where
  /-- The `uri` of each of the `connections`, none if there are no `connections`. -/
  connections : Option UriVector
  /-- `fetchSize`. -/
  fetchSize : Option Int64

/-- `DatastoreConnectionInfo`. -/
structure DatastoreConnectionInfo where
  /-- The fetch size. -/
  mDefaultFetchSize : UInt64
  /-- The URIs. -/
  mConnectionStrings : UriVector
  /-- The position of the URI handed out last. -/
  mLastUri : UInt64
  /-- What is handed out when there is no URI. -/
  mEmpty : String

namespace DatastoreConnectionInfo

/-- `DatastoreConnectionInfo::DatastoreConnectionInfo`; the configuration may have no
`database`. -/
def new (config : Option DatabaseConfig) : DatastoreConnectionInfo :=
  { mDefaultFetchSize :=
      match config.bind DatabaseConfig.fetchSize with
      | some fetchSize => fetchSize.toUInt64
      | none => 500
    mConnectionStrings :=
      match config.bind DatabaseConfig.connections with
      | some connections => connections
      | none => ⟨[], by decide⟩
    mLastUri := 0
    mEmpty := "" }

/-- `DatastoreConnectionInfo::getNextUri`: the URI, none if the position is past the end, and
the object afterwards. -/
def getNextUri (info : DatastoreConnectionInfo) : Option String × DatastoreConnectionInfo :=
  if !info.mConnectionStrings.empty then
    let info := { info with mLastUri := info.mLastUri + 1 }
    let info :=
      if info.mLastUri = info.mConnectionStrings.size then { info with mLastUri := 0 } else info
    (info.mConnectionStrings.get info.mLastUri, info)
  else (some info.mEmpty, info)

/-- `getDefaultFetchSize`. -/
def getDefaultFetchSize (info : DatastoreConnectionInfo) : UInt64 := info.mDefaultFetchSize

/-- `size`. -/
def size (info : DatastoreConnectionInfo) : UInt64 := info.mConnectionStrings.size

/-- The object after some calls of `getNextUri`. -/
def after (info : DatastoreConnectionInfo) : Nat → DatastoreConnectionInfo
  | 0 => info
  | calls + 1 => (info.after calls).getNextUri.2

/-- The positions of the URIs that some calls of `getNextUri` hand out. -/
def handedOut (info : DatastoreConnectionInfo) (calls : Nat) : List Nat :=
  (List.range calls).map fun call => (info.after (call + 1)).mLastUri.toNat

/-- Every position is handed out, in turn and as often as the others. -/
structure RotatesFairly (info : DatastoreConnectionInfo) : Prop where
  /-- The position stays below the number of URIs. -/
  inside : ∀ calls, (info.after calls).mLastUri.toNat < info.mConnectionStrings.uris.length
  /-- A call hands out the URI at the position after it. -/
  returned : ∀ calls, ∃ uri, (info.after calls).getNextUri.1 = some uri ∧
    info.mConnectionStrings.uris[(info.after (calls + 1)).mLastUri.toNat]? = some uri
  /-- As many calls in a row as there are URIs hand out each position once. -/
  round : ∀ calls,
    ((info.after calls).handedOut info.mConnectionStrings.uris.length).Perm
      (List.range info.mConnectionStrings.uris.length)
  /-- The numbers of times that two positions have been handed out differ by one at most. -/
  even : ∀ calls, ∀ left < info.mConnectionStrings.uris.length,
    ∀ right < info.mConnectionStrings.uris.length,
      (info.handedOut calls).count left ≤ (info.handedOut calls).count right + 1

variable {info : DatastoreConnectionInfo}

/-- A call keeps the URIs. -/
theorem getNextUri_mConnectionStrings (info : DatastoreConnectionInfo) :
    info.getNextUri.2.mConnectionStrings = info.mConnectionStrings := by
  unfold getNextUri
  split
  · dsimp only
    split <;> rfl
  · rfl

/-- Calls keep the URIs. -/
@[simp]
theorem after_mConnectionStrings (info : DatastoreConnectionInfo) (calls : Nat) :
    (info.after calls).mConnectionStrings = info.mConnectionStrings := by
  induction calls with
  | zero => rfl
  | succ calls ih => rw [after, getNextUri_mConnectionStrings, ih]

/-- A call moves the position forward, from the last one to the first. -/
theorem getNextUri_mLastUri
    (inside : info.mLastUri.toNat < info.mConnectionStrings.uris.length) :
    info.getNextUri.2.mLastUri.toNat =
      (info.mLastUri.toNat + 1) % info.mConnectionStrings.uris.length := by
  have fits := info.mConnectionStrings.fits
  have some : (!info.mConnectionStrings.empty) = true := by
    have uris : info.mConnectionStrings.uris ≠ [] := List.ne_nil_of_length_pos (by omega)
    simp [UriVector.empty, uris]
  -- the size is below the range of the word, so that the sum does not wrap
  have forward : (info.mLastUri + 1).toNat = info.mLastUri.toNat + 1 := by
    rw [UInt64.toNat_add, UInt64.toNat_one]
    exact Nat.mod_eq_of_lt (by omega)
  unfold getNextUri
  rw [if_pos some]
  dsimp only
  split
  · rename_i ended
    have last : info.mLastUri.toNat + 1 = info.mConnectionStrings.uris.length := by
      rw [← forward, ended, UriVector.toNat_size]
    rw [last, Nat.mod_self]
    rfl
  · rename_i further
    have before : info.mLastUri.toNat + 1 ≠ info.mConnectionStrings.uris.length := by
      rw [← forward, ← UriVector.toNat_size]
      intro same
      exact further (UInt64.toNat_inj.mp same)
    rw [Nat.mod_eq_of_lt (by omega)]
    exact forward

/-- A call hands out the URI at the position after it. -/
theorem getNextUri_uri (some : info.mConnectionStrings.uris ≠ []) :
    info.getNextUri.1 =
      info.mConnectionStrings.uris[info.getNextUri.2.mLastUri.toNat]? := by
  have filled : (!info.mConnectionStrings.empty) = true := by simp [UriVector.empty, some]
  unfold getNextUri
  rw [if_pos filled]
  dsimp only
  split <;> rfl

/-- The position after some calls. -/
theorem after_mLastUri (inside : info.mLastUri.toNat < info.mConnectionStrings.uris.length)
    (calls : Nat) :
    (info.after calls).mLastUri.toNat =
      (info.mLastUri.toNat + calls) % info.mConnectionStrings.uris.length := by
  induction calls with
  | zero =>
    rw [Nat.add_zero, Nat.mod_eq_of_lt inside]
    rfl
  | succ calls ih =>
    have still : (info.after calls).mLastUri.toNat <
        (info.after calls).mConnectionStrings.uris.length := by
      rw [after_mConnectionStrings, ih]
      exact Nat.mod_lt _ (Nat.zero_lt_of_lt inside)
    rw [after, getNextUri_mLastUri still, after_mConnectionStrings, ih, Nat.mod_add_mod,
      Nat.add_assoc]

/-- The positions handed out go through the list. -/
theorem handedOut_eq (inside : info.mLastUri.toNat < info.mConnectionStrings.uris.length)
    (calls : Nat) :
    info.handedOut calls =
      Rotation.positions info.mConnectionStrings.uris.length (info.mLastUri.toNat + 1) calls := by
  unfold handedOut Rotation.positions
  apply List.map_congr_left
  intro call _
  rw [after_mLastUri inside, Nat.add_assoc, Nat.add_comm 1 call]

/-- From a position below the number of URIs on, the calls rotate fairly. -/
theorem rotatesFairly_of_inside
    (inside : info.mLastUri.toNat < info.mConnectionStrings.uris.length) :
    RotatesFairly info := by
  have positive : 0 < info.mConnectionStrings.uris.length := Nat.zero_lt_of_lt inside
  have below (calls : Nat) :
      (info.after calls).mLastUri.toNat < info.mConnectionStrings.uris.length := by
    rw [after_mLastUri inside]
    exact Nat.mod_lt _ positive
  constructor
  · exact below
  · intro calls
    have some : (info.after calls).mConnectionStrings.uris ≠ [] := by
      rw [after_mConnectionStrings]
      exact List.ne_nil_of_length_pos positive
    have handed := getNextUri_uri some
    rw [after_mConnectionStrings] at handed
    have found := List.getElem?_eq_getElem (below (calls + 1))
    exact ⟨_, handed.trans found, found⟩
  · intro calls
    have still : (info.after calls).mLastUri.toNat <
        (info.after calls).mConnectionStrings.uris.length := by
      rw [after_mConnectionStrings]
      exact below calls
    rw [handedOut_eq still, after_mConnectionStrings]
    exact Rotation.positions_perm positive _
  · intro calls left leftInside right rightInside
    rw [handedOut_eq inside]
    exact Rotation.count_positions_le leftInside rightInside _ _

/-- For every configuration with connections: however often `getNextUri` has been called, it
hands out the URIs in turn, all of them as often. -/
theorem new_rotatesFairly {connections : UriVector} (filled : connections.uris ≠ [])
    (fetchSize : Option Int64) :
    RotatesFairly (new (some { connections := some connections, fetchSize })) :=
  rotatesFairly_of_inside (List.length_pos_of_ne_nil filled)

/-- Three servers. -/
def threeServers : UriVector := ⟨["host=first", "host=second", "host=third"], by decide⟩

/-- The calls rotate fairly over three servers. -/
theorem new_rotatesFairly_three :
    RotatesFairly (new (some { connections := some threeServers, fetchSize := none })) :=
  new_rotatesFairly (by decide) none

end DatastoreConnectionInfo

end ApiPack2

import FilterFleet.Session.Status

/-! # The cached session of a node

A client keeps the session of its latest login, together with the generation of the settings that
it logged in with.  A session is used only for its own generation, and not in the last seconds
before it ends.
-/

namespace FilterFleet

/-- A session in the cache. -/
structure CachedSession where
  sid : String
  validUntil : Instant
  /-- The generation of the settings that the login used. -/
  generation : Nat
deriving DecidableEq

namespace CachedSession

/-- A session counts as over this long before it ends. -/
def leeway : Span := Span.ofSecs 5

/-- The longest time that a session is trusted. -/
def maxValidity : Span := Span.ofSecs 604800

/-- Whether a session can be used for a generation of the settings. -/
def isUsable (s : CachedSession) (generation : Nat) (now : Instant) : Bool :=
  s.generation == generation && decide (now + leeway < s.validUntil)

end CachedSession

/-- The cache of one client: at most one session. -/
abbrev SessionCache := Option CachedSession

namespace SessionCache

/-- The id of the cached session, if it can be used. -/
def lookup (c : SessionCache) (generation : Nat) (now : Instant) : Option String :=
  (c.filter fun s => s.isUsable generation now).map (·.sid)

/-- Keep the session of a login that is trusted for `validity`, unless a session of later settings
is there. -/
def store (c : SessionCache) (sid : String) (validity : Span) (generation : Nat) (now : Instant) :
    SessionCache :=
  if c.any fun s => decide (generation < s.generation) then c
  else some ⟨sid, now + min validity CachedSession.maxValidity, generation⟩

/-- Give up the session of an id that was rejected, if it is still the cached one. -/
def invalidate (c : SessionCache) (sid : String) : SessionCache := c.filter fun s => s.sid != sid

end SessionCache

end FilterFleet

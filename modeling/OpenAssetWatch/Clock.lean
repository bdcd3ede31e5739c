import Mathlib

namespace OpenAssetWatch

/-- Times are microseconds since the epoch. -/
abbrev Time := Int

end OpenAssetWatch

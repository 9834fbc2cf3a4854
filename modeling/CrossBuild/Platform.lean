-- Platforms, and the build parameters that are fixed for Android and Apple targets.
import CrossBuild.Problem

namespace CrossBuild

/-- The operating systems that a cross build treats in a way of their own. -/
inductive Platform where
  | android
  | macos
  | ios
  | windows
  | linux
  | wasi
  | other
  deriving DecidableEq, Repr

namespace Platform

/-- The platform of an operating system. -/
def ofSystem (system : String) : Platform :=
  if system = "android" then android
  else if system = "macos" then macos
  else if system = "ios" then ios
  else if system = "windows" then windows
  else if system = "linux" then linux
  else if system = "wasi" then wasi
  else other

end Platform

/-- Build parameters, names with their values, in the order in which they are defined. -/
abbrev Parameters := List (String × String)

namespace Parameters

/-- The parameters of the Android NDK before version 18, which comes with GCC, by
architecture. -/
def androidOldGcc : List (String × Parameters) := [
  ("aarch64", [("ANDROID_TOOLCHAIN_NAME", "aarch64-linux-android-4.9")]),
  ("arm", [("ANDROID_TOOLCHAIN_NAME", "arm-linux-androideabi-4.9")]),
  ("x86", [("ANDROID_TOOLCHAIN_NAME", "x86-linux-android-4.9")]),
  ("x86_64", [("ANDROID_TOOLCHAIN_NAME", "x86_64-linux-android-4.9")])]

/-- The parameters of the Android NDK from version 19 on, by architecture. -/
def android : List (String × Parameters) := [
  ("aarch64", [("ANDROID_ABI", "arm64-v8a")]),
  ("arm", [("ANDROID_ABI", "armeabi-v7a")]),
  ("x86", [("ANDROID_ABI", "x86")]),
  ("x86_64", [("ANDROID_ABI", "x86_64")])]

/-- The parameters of an Apple target. -/
def ofSdk (architecture sdk : String) : Parameters :=
  [("CMAKE_OSX_ARCHITECTURES", architecture), ("CMAKE_OSX_SYSROOT", sdk)]

/-- The parameters of Apple targets by triple: devices and their simulators, Mac Catalyst,
and the Mac. -/
def apple : List (String × Parameters) := [
  ("aarch64-apple-ios", ofSdk "arm64" "iphoneos"),
  ("aarch64-apple-ios-sim", ofSdk "arm64" "iphonesimulator"),
  ("x86_64-apple-ios", ofSdk "x86_64" "iphonesimulator"),
  ("aarch64-apple-ios-macabi", ofSdk "arm64" "macosx"),
  ("x86_64-apple-ios-macabi", ofSdk "x86_64" "macosx"),
  ("aarch64-apple-darwin", ofSdk "arm64" "macosx"),
  ("x86_64-apple-darwin", ofSdk "x86_64" "macosx")]

/-- The parameters of an Android target; none for an architecture that is not listed. -/
def forAndroid (architecture : String) (oldGcc : Bool) : Parameters :=
  ((if oldGcc then androidOldGcc else android).lookup architecture).getD []

/-- The parameters of an Apple target; none for a triple that is not listed. -/
def forApple (triple : String) : Parameters := (apple.lookup triple).getD []

end Parameters

/-- The name of the SDK that an Apple target is built with. -/
def appleSdk (triple : String) : Except Problem String :=
  match (Parameters.forApple triple).lookup "CMAKE_OSX_SYSROOT" with
  | some sdk => .ok sdk
  | none => .error (.unknownSdk triple)

end CrossBuild

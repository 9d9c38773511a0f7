/-!
What lies around a folder: the folders, links and files that every system has. No file among them
holds a configuration.
-/

namespace PasteQueue.CommandLine.System

inductive Entry
  | folder
  | link (path : String)
  | file
  /-- A device from which nothing is read. -/
  | empty
  deriving DecidableEq, Repr

def folders : List String := [
  "", "boot", "dev", "dev/pts", "dev/shm", "etc", "etc/alternatives", "etc/apt", "etc/cron.daily",
  "etc/default", "etc/dpkg", "etc/init.d", "etc/ld.so.conf.d", "etc/opt", "etc/pam.d",
  "etc/profile.d", "etc/security", "etc/skel", "etc/ssl", "etc/ssl/certs", "home", "media", "mnt",
  "opt", "proc", "proc/1", "proc/fs", "proc/net", "proc/self", "proc/self/fd", "proc/sys",
  "proc/sys/fs", "proc/sys/kernel", "proc/sys/net", "proc/sys/vm", "root", "run", "run/lock", "srv",
  "sys", "sys/block", "sys/bus", "sys/class", "sys/dev", "sys/devices", "sys/fs", "sys/kernel",
  "sys/module", "tmp", "usr", "usr/bin", "usr/games", "usr/include", "usr/lib", "usr/lib64",
  "usr/lib/x86_64-linux-gnu", "usr/libexec", "usr/local", "usr/local/bin", "usr/local/etc",
  "usr/local/games", "usr/local/include", "usr/local/lib", "usr/local/sbin", "usr/local/share",
  "usr/local/src", "usr/sbin", "usr/share", "usr/share/doc", "usr/share/man", "usr/src", "var",
  "var/backups", "var/cache", "var/cache/apt", "var/lib", "var/lib/apt", "var/lib/dpkg",
  "var/local", "var/log", "var/mail", "var/opt", "var/spool", "var/tmp"]

def links : List (String × String) := [
  ("bin", "usr/bin"), ("dev/fd", "proc/self/fd"), ("lib", "usr/lib"), ("lib64", "usr/lib64"),
  ("proc/self/root", ""), ("sbin", "usr/sbin"), ("usr/local/man", "usr/local/share/man"),
  ("var/lock", "run/lock"), ("var/run", "run")]

def files : List String := [
  "dev/tty", "etc/bash.bashrc", "etc/debian_version", "etc/fstab", "etc/group", "etc/gshadow",
  "etc/host.conf", "etc/hostname", "etc/hosts", "etc/issue", "etc/issue.net", "etc/ld.so.cache",
  "etc/ld.so.conf", "etc/login.defs", "etc/mtab", "etc/nsswitch.conf", "etc/os-release",
  "etc/pam.conf", "etc/passwd", "etc/profile", "etc/resolv.conf", "etc/shadow", "etc/shells",
  "etc/subgid", "etc/subuid", "proc/cmdline", "proc/cpuinfo", "proc/devices", "proc/filesystems",
  "proc/loadavg", "proc/meminfo", "proc/mounts", "proc/self/cmdline", "proc/self/environ",
  "proc/self/exe", "proc/self/maps", "proc/self/mounts", "proc/self/stat", "proc/self/status",
  "proc/stat", "proc/uptime", "proc/version", "usr/bin/bash", "usr/bin/cat", "usr/bin/env",
  "usr/bin/ls", "usr/bin/sh", "usr/lib/os-release"]

def devices : List String := ["dev/null", "dev/stdin"]

/-- What stands at a path that is given without its first slash. -/
def find? (path : String) : Option Entry :=
  if folders.contains path then some .folder
  else if files.contains path then some .file
  else if devices.contains path then some .empty
  else (links.lookup path).map Entry.link

end PasteQueue.CommandLine.System
